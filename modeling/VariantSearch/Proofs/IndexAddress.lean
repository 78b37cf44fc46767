import VariantSearch.Proofs.Operations
import VariantSearch.Proofs.PathReading
import VariantSearch.Proofs.RemoteCalls

/-!
Which index a search reaches over HTTP.
-/

namespace VariantSearch

namespace Web.Url

open Percent Text

def indexPath (segment : List Char) : List Char :=
  "/indexes/".toList ++ segment ++ "/search".toList

theorem unbroken_indexPath (cs : List Char) :
    unbroken (indexPath cs) = indexPath (unbroken cs) := by
  have hfirst : unbroken "/indexes/".toList = "/indexes/".toList := by decide
  have hlast : unbroken "/search".toList = "/search".toList := by decide
  unfold indexPath
  rw [unbroken_append, unbroken_append, hfirst, hlast]

/-- A character that is not in the rest of the path is in the segment. -/
theorem mem_indexPath {cs : List Char} {c : Char} (h : c ∈ indexPath cs)
    (hc : c ∉ "/indexes/search".toList) : c ∈ cs := by
  have hfirst : "/indexes/".toList ⊆ "/indexes/search".toList := by decide
  have hlast : "/search".toList ⊆ "/indexes/search".toList := by decide
  rcases List.mem_append.1 h with h | h
  · rcases List.mem_append.1 h with h | h
    · exact absurd (hfirst h) hc
    · exact h
  · exact absurd (hlast h) hc

theorem indexPath_eq (cs : List Char) :
    indexPath cs = '/' :: ("indexes".toList ++ '/' :: (cs ++ '/' :: "search".toList)) := by
  have hfirst : "/indexes/".toList = '/' :: ("indexes".toList ++ ['/']) := by decide
  have hlast : "/search".toList = '/' :: "search".toList := by decide
  unfold indexPath
  rw [hfirst, hlast, List.cons_append, List.cons_append, List.append_assoc, List.append_assoc]
  rfl

theorem indexPath_inj {a b : List Char} (h : indexPath a = indexPath b) : a = b := by
  unfold indexPath at h
  exact List.append_cancel_left (List.append_cancel_right h)

theorem segments_indexes : segments "indexes".toList = ["indexes".toList] := by decide

theorem segments_search : segments "search".toList = ["search".toList] := by decide

theorem indexPath_eq_joined (cs : List Char) :
    indexPath cs = '/' :: joined '/' ["indexes".toList, cs, "search".toList] := indexPath_eq cs

theorem isSegment_indexes : IsSegment "indexes".toList := by decide +kernel

theorem isSegment_search : IsSegment "search".toList := by decide +kernel

/-- The text between the host and its end for a name that is a segment: the name is only escaped. -/
theorem IsSegment.tailOf_indexPath {cs : List Char} (h : IsSegment cs) :
    tailOf (unbroken (indexPath cs)) = (indexPath (encode keepInPath cs), none) := by
  have hsegments : ∀ text ∈ ["indexes".toList, cs, "search".toList], IsSegment text := by
    simp only [List.mem_cons, List.not_mem_nil, or_false]
    rintro text (rfl | rfl | rfl)
    · exact isSegment_indexes
    · exact h
    · exact isSegment_search
  have hfirst : encode keepInPath "indexes".toList = "indexes".toList := by decide
  have hlast : encode keepInPath "search".toList = "search".toList := by decide
  rw [unbroken_indexPath, h.unbroken_eq, indexPath_eq_joined, tailOf_joined (List.cons_ne_nil _ _) hsegments,
    List.map_cons, List.map_cons, List.map_cons, List.map_nil, hfirst, hlast, indexPath_eq_joined]

theorem isSegment_nil : IsSegment [] :=
  ⟨fun _ h => absurd h List.not_mem_nil, by decide, by decide, rfl⟩

/-- What is sent of a path ends in the name or behind it. -/
theorem takeWhile_indexPath (cs : List Char) :
    ∃ ending, (ending = [] ∨ ending = '/' :: "search".toList) ∧
      (indexPath cs).takeWhile (· != '#') =
        '/' :: ("indexes".toList ++ '/' :: (cs.takeWhile (· != '#') ++ ending)) := by
  have hlast : ('/' :: "search".toList).takeWhile (· != '#') = '/' :: "search".toList := by decide
  have hfirst : ∀ c ∈ '/' :: ("indexes".toList ++ ['/']), (c != '#') = true :=
    List.all_eq_true.1 (by decide)
  have hparts : indexPath cs =
      '/' :: ("indexes".toList ++ ['/']) ++ (cs ++ '/' :: "search".toList) := by
    rw [indexPath_eq]
    simp only [List.cons_append, List.append_assoc, List.nil_append]
  rw [hparts, List.takeWhile_append_of_pos hfirst, List.takeWhile_append]
  split
  · next hwhole =>
    refine ⟨'/' :: "search".toList, Or.inr rfl, ?_⟩
    rw [hlast, (List.takeWhile_prefix _).eq_of_length hwhole]
    simp only [List.cons_append, List.append_assoc, List.nil_append]
  · refine ⟨[], Or.inl rfl, ?_⟩
    simp only [List.cons_append, List.append_assoc, List.nil_append, List.append_nil]

theorem mem_segments_of_takeWhile {cs ending segment : List Char}
    (hending : ending = [] ∨ ending = '/' :: "search".toList)
    (h : segment ∈ segments ("indexes".toList ++ '/' :: (cs ++ ending))) :
    segment = "indexes".toList ∨ segment = "search".toList ∨ segment ∈ segments cs := by
  rw [segments_append_slash, segments_indexes, List.singleton_append, List.mem_cons] at h
  rcases h with h | h
  · exact Or.inl h
  · rcases hending with rfl | rfl
    · rw [List.append_nil] at h
      exact Or.inr (Or.inr h)
    · rw [segments_append_slash, segments_search, List.mem_append, List.mem_singleton] at h
      exact Or.inr h.symm

/-- A piece of what is sent of a name says as many bytes as the name has only if it is the name. -/
theorem eq_of_mem_segments {cs segment : List Char}
    (h : segment ∈ segments ((unbroken cs).takeWhile (· != '#')))
    (hread : decodeText segment = Utf8.encode cs) :
    segment = cs ∧ '/' ∉ cs ∧ '\\' ∉ cs ∧ (unbroken cs).takeWhile (· != '#') = cs := by
  obtain ⟨hslash, hpiece⟩ := of_mem_pieces h
  have hsent : ((unbroken cs).takeWhile (· != '#')).Sublist cs :=
    (List.takeWhile_sublist _).trans List.filter_sublist
  have hsub : segment.Sublist (slashed cs) := hpiece.trans (hsent.map _)
  -- The piece lacks a byte for every character that was left out of it, and its escapes say no more
  -- bytes than it has; so nothing was left out.
  have hlength : cs.length ≤ segment.length := by
    have hsize := Utf8.length_encode_of_sublist hsub
    have hbytes := length_decodeText_le segment
    have hchars : (slashed cs).length = cs.length := List.length_map _
    rw [length_encode_slashed, hchars] at hsize
    rw [hread] at hbytes
    omega
  have hsize : (slashed cs).length ≤ segment.length := by
    rw [slashed, List.length_map]
    exact hlength
  have heq : segment = slashed cs := hsub.eq_of_length_le hsize
  have hwhole : (unbroken cs).takeWhile (· != '#') = cs := by
    have hpieces := hpiece.length_le
    rw [List.length_map] at hpieces
    exact hsent.eq_of_length_le (hlength.trans hpieces)
  have hnone {c : Char} (hc : isSlash c = true) : c ∉ cs := fun hmem =>
    hslash (heq ▸ slash_mem_slashed hmem hc)
  have hback : '\\' ∉ cs := hnone rfl
  rw [slashed_of_not_mem hback] at heq
  exact ⟨heq, hnone rfl, hback, hwhole⟩

/-- A name that is a piece of what is sent of it, and no dot segment, is a segment. -/
theorem isSegment_of_mem_segments {cs piece : List Char}
    (h : piece ∈ segments ((unbroken cs).takeWhile (· != '#')))
    (hmark : '?' ∉ (unbroken cs).takeWhile (· != '#')) (hdots : ¬ IsDots (encode keepInPath piece))
    (hread : decodeText piece = Utf8.encode cs) : IsSegment cs := by
  obtain ⟨rfl, hslash, hback, hwhole⟩ := eq_of_mem_segments h hread
  rw [hwhole] at hmark
  refine ⟨?_, ?_, ?_, hread⟩
  · intro c hc hbad
    have hsent := hc
    rw [← hwhole] at hsent
    have hsign : c ≠ '#' := bne_iff_ne.1 (List.mem_takeWhile_imp (p := (· != '#')) hsent)
    have hline := (List.mem_filter.1 ((List.takeWhile_sublist _).subset hsent)).2
    have hlist : "/\\?#\t\n\r".toList = ['/', '\\', '?', '#', '\t', '\n', '\r'] := by decide
    simp only [hlist, List.mem_cons, List.not_mem_nil, or_false] at hbad
    -- The first four would end the segment or the path, the last three would be dropped.
    rcases hbad with rfl | rfl | rfl | rfl | rfl | rfl | rfl
    · exact hslash hc
    · exact hback hc
    · exact hmark hc
    · exact hsign rfl
    all_goals cases hline
  · rintro rfl
    exact hdots (Or.inl (by decide))
  · rintro rfl
    exact hdots (Or.inr (by decide))

/-- If a path is the one of an index, its segments are resolved to those of that path. -/
theorem resolve_eq_of_pathOf {cs segment : List Char} (hslash : '/' ∉ segment)
    (h : pathOf ('/' :: cs) = indexPath segment) :
    resolve [] ((segments cs).map (encode keepInPath)) =
      ["indexes".toList, segment, "search".toList] := by
  rw [pathOf_cons_slash, indexPath_eq] at h
  have hjoined : joined '/' (resolve [] ((segments cs).map (encode keepInPath))) =
      joined '/' ["indexes".toList, segment, "search".toList] := (List.cons.inj h).2
  refine joined_inj ?_ (List.cons_ne_nil _ _) (fun _ => slash_not_mem_of_mem_resolve) ?_ hjoined
  · intro hnil
    rw [hnil] at hjoined
    cases hjoined
  · intro text hmem
    simp only [List.mem_cons, List.not_mem_nil, or_false] at hmem
    rcases hmem with rfl | rfl | rfl
    · decide
    · exact hslash
    · decide

/-- If the text behind the host is a path with one segment that says the name, the name is one. -/
theorem isSegment_of_target {u : Url} {cs segment : List Char}
    (h : (u.path, u.query) = tailOf (unbroken (indexPath cs)))
    (htarget : u.target = indexPath segment) (hslash : '/' ∉ segment) (hmark : '?' ∉ segment)
    (hread : decodeText segment = Utf8.encode cs) : IsSegment cs := by
  obtain ⟨ending, hending, hsent⟩ := takeWhile_indexPath (unbroken cs)
  rw [unbroken_indexPath, tailOf] at h
  simp only [hsent] at h
  split at h
  · next hquery =>
    obtain ⟨hpath, hnone⟩ := Prod.mk.inj h
    rw [target, hnone] at htarget
    have hresolved := resolve_eq_of_pathOf hslash (hpath.symm.trans htarget)
    have hmem : segment ∈ ["indexes".toList, segment, "search".toList] :=
      List.mem_cons_of_mem _ List.mem_cons_self
    rw [← hresolved] at hmem
    -- The segment comes from what was sent, and that is the name between the two known segments.
    rcases mem_resolve hmem with hmem | rfl | ⟨hmem, hdots⟩
    · cases hmem
    · rw [← Utf8.encode_inj (a := []) hread]
      exact isSegment_nil
    · obtain ⟨piece, hpiece, rfl⟩ := List.mem_map.1 hmem
      rw [decodeText_encode_keepInPath] at hread
      rcases mem_segments_of_takeWhile hending hpiece with rfl | rfl | hpiece
      · rw [← Utf8.encode_inj (isSegment_indexes.plain.symm.trans hread)]
        exact isSegment_indexes
      · rw [← Utf8.encode_inj (isSegment_search.plain.symm.trans hread)]
        exact isSegment_search
      · refine isSegment_of_mem_segments hpiece (fun hmem => ?_) hdots hread
        refine cutFirst?_eq_none_iff.1 hquery (List.mem_cons_of_mem _ ?_)
        exact List.mem_append_right _ (List.mem_cons_of_mem _ (List.mem_append_left _ hmem))
  · -- With a query there would be a question mark.
    next path query _ =>
    obtain ⟨hpath, hquery⟩ := Prod.mk.inj h
    exfalso
    rw [target, hquery] at htarget
    dsimp only at htarget
    refine hmark (mem_indexPath (c := '?') ?_ (by decide))
    rw [← htarget]
    exact List.mem_append_right _ List.mem_cons_self

end Web.Url

open Web.Url

namespace Remote

def base (c : RemoteConfig) : List Char := (c.baseUrl.toList.reverse.dropWhile (· == '/')).reverse

/-- A request with this target reaches the searches of the index and of no other one: there is no
query, and the path has one segment for the index, whose escapes say its name. -/
def Reaches (target indexUid : String) : Prop :=
  ∃ segment, target.toList = indexPath segment ∧ '/' ∉ segment ∧ '?' ∉ segment ∧
    Web.Percent.decodeText segment = Text.Utf8.ofString indexUid

theorem Reaches.unique {target indexUid other : String} (h : Reaches target indexUid)
    (h' : Reaches target other) : indexUid = other := by
  obtain ⟨segment, htarget, -, -, hread⟩ := h
  obtain ⟨segment', htarget', -, -, hread'⟩ := h'
  obtain rfl := indexPath_inj (htarget.symm.trans htarget')
  exact String.toList_inj.1 (Text.Utf8.encode_inj (hread.symm.trans hread'))

theorem target_of_searchRequest? {c : RemoteConfig} {indexUid : String} {query : EngineQuery}
    {sent : Web.Request} (hbase : IsBare (base c))
    (h : searchRequest? c indexUid query = some sent) :
    ∃ u : Web.Url, sent.target = String.ofList u.target ∧
      (u.path, u.query) = tailOf (unbroken (indexPath indexUid.toList)) := by
  have haddress : addressOf c.baseUrl ("/indexes/" ++ indexUid ++ "/search") =
      String.ofList (base c ++ indexPath indexUid.toList) := by
    apply String.toList_inj.1
    unfold addressOf indexPath base
    rw [String.toList_append, String.toList_append, String.toList_append,
      @String.toList_ofList (List.reverse _), @String.toList_ofList (_ ++ (_ ++ _))]
  have hslash : (indexPath indexUid.toList).head? = some '/' := by
    rw [indexPath_eq]
    rfl
  have hlast : (indexPath indexUid.toList).getLast? = some 'h' := by
    have hend : "/search".toList.getLast? = some 'h' := by decide
    unfold indexPath
    rw [List.getLast?_append, hend]
    rfl
  unfold searchRequest? request? at h
  rw [haddress] at h
  split at h
  · cases h
  · next u hu =>
    dsimp only at h
    split at h
    · cases h
      exact ⟨u, rfl, parse_append_eq_ok hbase hslash hlast (by decide) hu⟩
    · cases h

/-- The request of a search reaches the index just if the name of the index is a segment. -/
theorem reaches_iff {c : RemoteConfig} {indexUid : String} {query : EngineQuery} {sent : Web.Request}
    (hbase : IsBare (base c)) (h : searchRequest? c indexUid query = some sent) :
    Reaches sent.target indexUid ↔ IsSegment indexUid.toList := by
  obtain ⟨u, htarget, hu⟩ := target_of_searchRequest? hbase h
  rw [htarget, Reaches, String.toList_ofList]
  constructor
  · rintro ⟨segment, hsegment, hslash, hmark, hread⟩
    exact isSegment_of_target hu hsegment hslash hmark hread
  · intro hname
    obtain ⟨hpath, hquery⟩ := Prod.mk.inj (hu.trans hname.tailOf_indexPath)
    have hwhole : u.target = indexPath (Web.Percent.encode keepInPath indexUid.toList) := by
      rw [Web.Url.target, hquery, hpath]
    -- The segment is the name with its escapes, and these bring in no slash and no question mark.
    refine ⟨_, hwhole, ?_, ?_, ?_⟩
    · intro hmem
      rcases Web.Percent.mem_encode hmem with ⟨hmem, -⟩ | ⟨-, hne⟩
      · exact hname.not_mem (by decide) hmem
      · exact hne rfl
    · intro hmem
      rcases Web.Percent.mem_encode hmem with ⟨hmem, -⟩ | ⟨hchar, -⟩
      · exact hname.not_mem (by decide) hmem
      · exact absurd hchar (by decide)
    · rw [decodeText_encode_keepInPath, hname.plain]
      rfl

end Remote

namespace Service

/-- A search for a configured name whose index is the given one sends a request, over an address that
names a host only. -/
structure Sends (s : Service Remote) (name : String) (request : SearchRequest) (indexUid : String)
    (sent : Web.Request) : Prop where
  bare : IsBare (Remote.base s.engine.config)
  applied : s.registry.appliedIndex? name = some indexUid
  sent : ∃ reply, ⟨sent, reply⟩ ∈
    (execute name request s).2.engine.transcript.drop s.engine.transcript.length

variable {s : Service Remote} {name indexUid : String} {request : SearchRequest} {sent : Web.Request}

theorem engine_execute_of_sent (hindex : s.registry.appliedIndex? name = some indexUid)
    (h : Remote.searchRequest? s.engine.config indexUid request.toQuery = some sent)
    (hlistening : s.engine.listening = true) :
    (execute name request s).2.engine = s.engine.after [⟨sent, s.engine.nextReply⟩] := by
  rw [execute_of_some hindex, Remote.search_of_sent h hlistening]

theorem sends_of_searchRequest? (hbare : IsBare (Remote.base s.engine.config))
    (hindex : s.registry.appliedIndex? name = some indexUid)
    (h : Remote.searchRequest? s.engine.config indexUid request.toQuery = some sent)
    (hlistening : s.engine.listening = true) : Sends s name request indexUid sent := by
  refine ⟨hbare, hindex, s.engine.nextReply, ?_⟩
  rw [engine_execute_of_sent hindex h hlistening, Remote.after, List.drop_left]
  exact List.mem_singleton.2 rfl

/-- A search sends one request at most, and only the one that is made for it. -/
theorem Sends.searchRequest? (h : Sends s name request indexUid sent) :
    Remote.searchRequest? s.engine.config indexUid request.toQuery = some sent := by
  obtain ⟨-, hindex, reply, hmem⟩ := h
  by_cases hunsent : Remote.searchRequest? s.engine.config indexUid request.toQuery = none ∨
      s.engine.listening = false
  · obtain ⟨detail, hsearch⟩ := Remote.search_of_unsent hunsent
    rw [execute_of_some hindex, hsearch, List.drop_length] at hmem
    cases hmem
  · obtain ⟨hsome, hlistening⟩ := not_or.1 hunsent
    obtain ⟨made, hmade⟩ := Option.ne_none_iff_exists'.1 hsome
    rw [engine_execute_of_sent hindex hmade (by simpa using hlistening), Remote.after,
      List.drop_left] at hmem
    cases List.mem_singleton.1 hmem
    exact hmade

/-- The request of a search reaches the index of the configured name, and no other one, just if the
name of the index can stand in a path as one segment without change. Two searches for indexes with
different names of this kind never have the same target. -/
theorem search_reaches_index_iff {s s' : Service Remote} {name name' indexUid indexUid' : String}
    {request request' : SearchRequest} {sent sent' : Web.Request}
    (h : Sends s name request indexUid sent) (h' : Sends s' name' request' indexUid' sent') :
    (Remote.Reaches sent.target indexUid ↔ IsSegment indexUid.toList) ∧
      (IsSegment indexUid.toList → IsSegment indexUid'.toList → indexUid ≠ indexUid' →
        sent.target ≠ sent'.target) := by
  have hreach := Remote.reaches_iff h.bare h.searchRequest?
  have hreach' := Remote.reaches_iff h'.bare h'.searchRequest?
  refine ⟨hreach, fun hname hname' hne heq => ?_⟩
  have hfirst := hreach.2 hname
  rw [heq] at hfirst
  exact hne (hfirst.unique (hreach'.2 hname'))

def overSlash : RemoteConfig := ⟨"http://engine:7700/", none, 1, 1, 1, 9⟩

theorem isBare_overSlash : IsBare (Remote.base overSlash) := by
  have hslashes : "//".toList.all isSlash = true := by decide
  have hauthority : "engine:7700".toList.all (fun c => !endsAuthority c) = true := by decide
  refine ⟨"http".toList, "//".toList, "engine:7700".toList, by decide, by decide,
    List.all_eq_true.1 hslashes, by decide, fun c hc => ?_⟩
  have hinside := List.all_eq_true.1 hauthority c hc
  rwa [Bool.not_eq_true'] at hinside

def obligingScript : List Web.Reply :=
  let accepting (task : String) : List Web.Reply :=
    [.answer 200 [], .answer 202 (Text.Utf8.ofString ("\x7b\"taskUid\":" ++ task ++ "\x7d")),
      .answer 200 (Text.Utf8.ofString "\x7b\"status\":\"succeeded\"\x7d")]
  accepting "1" ++ accepting "2"

def servingBeside (v : Variant) : Service Remote :=
  (start (.fresh overSlash true obligingScript)).run
    [.register (.plain "v1"), .register v, .applyAll]

def plainRequest : SearchRequest := ⟨"", 0, 20, [], none⟩

def escapedIndex : Variant := { Variant.plain "v2" with indexUid := "top 5% é" }

theorem search_reaches_index_iff_for_escapedIndex :
    ∃ sent sent', Sends (servingBeside escapedIndex) "v1" plainRequest "idx_v1" sent ∧
      Sends (servingBeside escapedIndex) "v2" plainRequest "top 5% é" sent' ∧
      Remote.Reaches sent.target "idx_v1" ∧ Remote.Reaches sent'.target "top 5% é" ∧
      sent.target ≠ sent'.target := by
  obtain ⟨hconfig, hlistening, hindex, hindex'⟩ :
      (servingBeside escapedIndex).engine.config = overSlash ∧
        (servingBeside escapedIndex).engine.listening = true ∧
        (servingBeside escapedIndex).registry.appliedIndex? "v1" = some "idx_v1" ∧
        (servingBeside escapedIndex).registry.appliedIndex? "v2" = some "top 5% é" := by
    decide +kernel
  have hbare : IsBare (Remote.base (servingBeside escapedIndex).engine.config) :=
    hconfig ▸ isBare_overSlash
  have hsome : (Remote.searchRequest? overSlash "idx_v1" plainRequest.toQuery).isSome = true := by
    decide +kernel
  have hsome' : (Remote.searchRequest? overSlash "top 5% é" plainRequest.toQuery).isSome = true := by
    decide +kernel
  rw [← hconfig] at hsome hsome'
  obtain ⟨sent, hsent⟩ := Option.isSome_iff_exists.1 hsome
  obtain ⟨sent', hsent'⟩ := Option.isSome_iff_exists.1 hsome'
  have h : Sends (servingBeside escapedIndex) "v1" plainRequest "idx_v1" sent :=
    sends_of_searchRequest? hbare hindex hsent hlistening
  have h' : Sends (servingBeside escapedIndex) "v2" plainRequest "top 5% é" sent' :=
    sends_of_searchRequest? hbare hindex' hsent' hlistening
  have hname : IsSegment "idx_v1".toList := by decide +kernel
  have hname' : IsSegment "top 5% é".toList := by decide +kernel
  obtain ⟨hreach, hne⟩ := search_reaches_index_iff h h'
  obtain ⟨hreach', -⟩ := search_reaches_index_iff h' h
  exact ⟨sent, sent', h, h', hreach.2 hname, hreach'.2 hname', hne hname hname' (by decide)⟩

def strayIndex : Variant := { Variant.plain "v2" with indexUid := "idx_v1/search#" }

/-- The variant passes all checks and is configured, and its searches go to the index of the other
one. -/
theorem search_strays_for_strayIndex :
    strayIndex.check = .ok () ∧
      (servingBeside strayIndex).registry.find? "v2" = some ⟨strayIndex, .configured⟩ ∧
      ∃ sent, Sends (servingBeside strayIndex) "v2" plainRequest "idx_v1/search#" sent ∧
        Remote.Reaches sent.target "idx_v1" ∧ ¬ Remote.Reaches sent.target "idx_v1/search#" := by
  obtain ⟨hconfig, hlistening, hfound⟩ :
      (servingBeside strayIndex).engine.config = overSlash ∧
        (servingBeside strayIndex).engine.listening = true ∧
        (servingBeside strayIndex).registry.find? "v2" = some ⟨strayIndex, .configured⟩ := by
    decide +kernel
  have hindex : (servingBeside strayIndex).registry.appliedIndex? "v2" = some "idx_v1/search#" := by
    rw [Registry.appliedIndex?, hfound]
    rfl
  have hbare : IsBare (Remote.base (servingBeside strayIndex).engine.config) :=
    hconfig ▸ isBare_overSlash
  -- The sign drops what is meant to follow the name, so the name itself spells the path of
  -- `idx_v1`.
  have htarget : (Remote.searchRequest? overSlash "idx_v1/search#" plainRequest.toQuery).map
      (·.target) = some "/indexes/idx_v1/search" := by decide +kernel
  rw [← hconfig] at htarget
  obtain ⟨sent, hsent, hstray⟩ := Option.map_eq_some_iff.1 htarget
  have hreach : Remote.Reaches sent.target "idx_v1" := by
    rw [hstray]
    exact ⟨"idx_v1".toList, by decide, by decide, by decide, by decide +kernel⟩
  refine ⟨rfl, hfound, sent, sends_of_searchRequest? hbare hindex hsent hlistening, hreach, ?_⟩
  exact fun hself => absurd (hreach.unique hself) (by decide)

end Service

end VariantSearch
