import VariantSearch.Proofs.PathReading
import VariantSearch.Proofs.SearchRoute
import VariantSearch.Proofs.SentParameters
import VariantSearch.Proofs.VariantPage

/-!
Searches from the command line, from the address that the client writes to the body that it reads.
-/

namespace VariantSearch

open Web.Url

namespace Web.Url

structure IsSafe (name : String) : Prop where
  ne : name ≠ ""
  unreserved : ∀ c ∈ name.toList, Target.isUnreserved c = true
  one_dot : name ≠ "."
  two_dots : name ≠ ".."

variable {name : String}

theorem isControlOrSpace_of_isUnreserved {c : Char} (h : Target.isUnreserved c = true) :
    isControlOrSpace c = false :=
  decide_eq_false (Nat.not_le.2 (Target.toNat_of_isUnreserved h).1)

theorem keepInPath_of_isUnreserved {c : Char} (h : Target.isUnreserved c = true) :
    keepInPath c = true := by
  obtain ⟨hlow, hhigh⟩ := Target.toNat_of_isUnreserved h
  have hvisible : isVisible c = true := by simp [isVisible, hlow, hhigh]
  have hescaped : ("\"#<>?`\x7b\x7d".toList.all fun d => !Target.isUnreserved d) = true := by decide
  rw [keepInPath, hvisible, Bool.true_and, Bool.not_eq_true', ← Bool.not_eq_true,
    List.contains_iff_mem]
  intro hmem
  have hout := List.all_eq_true.1 hescaped c hmem
  rw [h] at hout
  cases hout

theorem IsSafe.isSegment (h : IsSafe name) : IsSegment name.toList where
  chars c hc hmem := by
    have hreserved : ("/\\?#\t\n\r".toList.all fun d => !Target.isUnreserved d) = true := by decide
    have hout := List.all_eq_true.1 hreserved c hmem
    rw [h.unreserved c hc] at hout
    cases hout
  one_dot heq := h.one_dot (String.toList_inj.1 heq)
  two_dots heq := h.two_dots (String.toList_inj.1 heq)
  plain := by
    have hread := @Percent.decodeText_encode Target.isUnreserved (by decide) name.toList
    rwa [Percent.encode_of_kept h.unreserved] at hread

/-- The path of the searches for a name is sent as it is. -/
theorem IsSafe.tailOf_search (h : IsSafe name) :
    tailOf (Router.searchPrefix ++ name.toList) = (Router.searchPrefix ++ name.toList, none) := by
  have hpath : Router.searchPrefix ++ name.toList =
      '/' :: Text.joined '/' ["search".toList, name.toList] := rfl
  have hsegments : ∀ text ∈ ["search".toList, name.toList], IsSegment text := by
    simp only [List.mem_cons, List.not_mem_nil, or_false]
    rintro text (rfl | rfl)
    · decide +kernel
    · exact h.isSegment
  have hfirst : Percent.encode keepInPath "search".toList = "search".toList := by decide
  have hname : Percent.encode keepInPath name.toList = name.toList :=
    Percent.encode_of_kept fun c hc => keepInPath_of_isUnreserved (h.unreserved c hc)
  rw [hpath, tailOf_joined (List.cons_ne_nil _ _) hsegments, List.map_cons, List.map_cons,
    List.map_nil, hfirst, hname]

end Web.Url

namespace CommandLine

/-- The text is the address of the site: it names the host and the number where the site listens, and
nothing else. -/
structure IsAddressOf (endpoint : String) (site : Site) : Prop where
  bare : IsBare endpoint.toList
  visible : ∀ c ∈ endpoint.toList, isControlOrSpace c = false
  reached : ∃ u, parse endpoint = .ok u ∧ u.secure = false ∧ u.host = site.host ∧
    u.portNumber = site.portNumber

variable {site : Site} {endpoint name : String}

/-- The address of the searches for a name leads to the site. -/
theorem IsAddressOf.parse_searchUrl (h : IsAddressOf endpoint site) (hname : IsSafe name) :
    parse (searchUrl endpoint name) =
      .ok ⟨false, site.host, site.portNumber, Router.searchPrefix ++ name.toList, none⟩ := by
  obtain ⟨u, hu, hsecure, hhost, hnumber⟩ := h.reached
  have hurl : searchUrl endpoint name =
      String.ofList (endpoint.toList ++ (Router.searchPrefix ++ name.toList)) := by
    apply String.toList_inj.1
    rw [searchUrl, String.toList_append, String.toList_append, List.append_assoc,
      @String.toList_ofList (_ ++ (_ ++ _))]
    rfl
  -- Neither the address nor the name holds what a reader of addresses drops.
  have hvisible : ∀ c ∈ endpoint.toList ++ (Router.searchPrefix ++ name.toList),
      isControlOrSpace c = false := by
    intro c hc
    rcases List.mem_append.1 hc with hc | hc
    · exact h.visible c hc
    rcases List.mem_append.1 hc with hc | hc
    · have hprefix : (Router.searchPrefix.all fun c => !isControlOrSpace c) = true := by decide
      simpa using List.all_eq_true.1 hprefix c hc
    · exact isControlOrSpace_of_isUnreserved (hname.unreserved c hc)
  rw [← String.ofList_toList (s := endpoint)] at hu
  rw [hurl, parse_append h.bare hvisible rfl hu, hname.tailOf_search, hsecure, hhost, hnumber]

section Engine

variable {σ : Type} [SearchEngine σ] {registry : Registry} {chains : Chains} {metrics : Bool}

/-- A search from the command line is the search of the router with the text of its parameters. -/
theorem fetch_search (hr : Router.make registry chains metrics = .ok site.router)
    (h : IsAddressOf endpoint site) (hname : IsSafe name) (pairs : List (String × String))
    (hpairs : pairs ≠ []) (s : Service σ) :
    fetch site (searchUrl endpoint name) pairs s =
      (readAnswer (searchUrl endpoint name)
          (site.router.search name (some (Web.Form.encodePairs pairs)) s).1,
        (site.router.search name (some (Web.Form.encodePairs pairs)) s).2) := by
  have hnil : name.toList ≠ [] := fun heq => hname.ne (String.toList_eq_nil_iff.1 heq)
  have hslash : '/' ∉ name.toList := hname.isSegment.not_mem (by decide)
  have hempty : ¬ pairs.isEmpty = true := mt List.isEmpty_iff.1 hpairs
  have hhandle : site.router.handle "GET"
      ⟨Router.searchPrefix ++ name.toList, some (Web.Form.encodePairs pairs)⟩ s =
        site.router.search name (some (Web.Form.encodePairs pairs)) s := by
    simp only [Router.handle, Router.find?_search hr hnil hslash, Router.visit,
      Router.parameterText?_of_unreserved hname.unreserved, if_true]
  rw [fetch, h.parse_searchUrl hname]
  simp only [Web.Url.withPairs, if_neg hempty, Bool.not_false, and_self, if_true, hhandle]

def failureDocument (f : ServiceFailure) : Json :=
  .ofMembers
    [("error",
      .ofMembers
        [("code", .text f.code), ("message", .text f.toText), ("status", .nat f.status)])]

theorem plain_failureDocument {limit : Nat} (f : ServiceFailure) :
    Json.Plain (limit + 2) (failureDocument f) := by
  have hstatus : f.status < UInt64.size := by cases f <;> simp [ServiceFailure.status, UInt64.size]
  have hinner : Json.Plain (limit + 1) (.ofMembers
      [("code", .text f.code), ("message", .text f.toText), ("status", .nat f.status)]) :=
    Json.plain_ofMembers ⟨.text _, .text _, Json.plain_nat hstatus⟩
  exact Json.plain_ofMembers hinner

/-- The client finds the message of a failure in its document. -/
theorem message_failureDocument (f : ServiceFailure) :
    (((failureDocument f).member? "error").bind (·.member? "message")).getD .null =
      .text f.toText := by
  have hnames : ["code", "message", "status"].Nodup := by decide
  have herror (value : Json) :
      (Json.ofMembers [("error", value)]).member? "error" = some value :=
    Json.member?_ofMembers_append [] "error" value
  have hmessage : (Json.ofMembers
      [("code", .text f.code), ("message", .text f.toText), ("status", .nat f.status)]).member?
        "message" = some (.text f.toText) :=
    TextMap.get?_ofList_of_mem hnames (by simp)
  rw [failureDocument, herror, Option.bind_some, hmessage, Option.getD_some]

theorem isSuccess_status (f : ServiceFailure) : Web.Status.isSuccess f.status = false := by
  cases f <;> rfl

/-- What the client prints where the search itself has a result. -/
structure Reports (url : String) (result : Except SearchFailure Json) (o : Outcome) : Prop where
  read : ∀ body value, result = .ok body → Json.ofString? body.toText = some value →
    o = ⟨0, value.toPrettyText ++ "\n", ""⟩
  plain : ∀ body, result = .ok body → Json.Plain Json.nestingLimit body →
    o = ⟨0, body.toPrettyText ++ "\n", ""⟩
  /-- A body that cannot be read, because it is nested too deeply or holds a number that is out of
  range, is a failure. -/
  unreadable : ∀ body, result = .ok body → Json.ofString? body.toText = none →
    o = ⟨1, "", "Error: response is not JSON\n"⟩
  /-- A search that fails is a failure that tells its status and its message. -/
  failed : ∀ e, result = .error e →
    o = ⟨1, "", "Error: " ++ (url ++ " returned " ++ Web.Status.toText e.toService.status ++ ": " ++
      (Json.text e.toService.toText).toText) ++ "\n"⟩

theorem reports_readAnswer (url : String) (result : Except SearchFailure Json) :
    Reports url result (printed (readAnswer url (Router.answerOf result))) := by
  -- The status of a result is a success, so the value that is read is what is printed.
  have hread {body value : Json} (h : Json.ofString? body.toText = some value) :
      readAnswer url (Router.answerOf (.ok body)) = .ok value := by
    simp only [readAnswer, Router.answerOf, Answer.ofJson, bodyText, h]
    rfl
  refine ⟨?_, ?_, ?_, ?_⟩
  · rintro body value rfl hvalue
    rw [hread hvalue]
    rfl
  · rintro body rfl hplain
    rw [hread (Json.ofString?_toText hplain)]
    rfl
  · rintro body rfl hnone
    simp only [readAnswer, Router.answerOf, Answer.ofJson, bodyText, hnone]
    rfl
  · rintro e rfl
    have hvalue : Json.ofString? (failureDocument e.toService).toText =
        some (failureDocument e.toService) := Json.ofString?_toText (plain_failureDocument _)
    have hanswer : Router.answerOf (.error e) =
        .ofJson e.toService.status (failureDocument e.toService) := rfl
    simp only [hanswer, readAnswer, Answer.ofJson, bodyText, hvalue, isSuccess_status,
      message_failureDocument]
    rfl

/-- A search from the command line does what the search for its parameters does, with the chains of the
router. -/
theorem carryOut_search (hr : Router.make registry chains metrics = .ok site.router)
    (haddress : IsAddressOf endpoint site) (hname : IsSafe name) (query : String)
    (facets sort : Option String) {page limit : Int} (hpage : Word.fits page = true)
    (hlimit : Word.fits limit = true) (s : Service σ) :
    Reports (searchUrl endpoint name)
        (Service.search name ⟨query, facets, sort, page, limit⟩ { s with chains }).1
        (carryOut site endpoint (.search name query facets sort page limit) s).1 ∧
      (carryOut site endpoint (.search name query facets sort page limit) s).2 =
        { (Service.search name ⟨query, facets, sort, page, limit⟩ { s with chains }).2 with
          chains := s.chains } := by
  have hquery := ofQuery_searchPairs query facets sort hpage hlimit
  have hfetch := fetch_search hr haddress hname (searchPairs query facets sort page limit)
    (List.cons_ne_nil _ _) s
  have hsearch : site.router.search name
      (some (Web.Form.encodePairs (searchPairs query facets sort page limit))) s =
        (Router.answerOf
          (Service.search name ⟨query, facets, sort, page, limit⟩ { s with chains }).1,
          { (Service.search name ⟨query, facets, sort, page, limit⟩ { s with chains }).2 with
            chains := s.chains }) := by
    rw [Router.search, Option.getD_some, hquery, ← Router.chains_of_make hr]
  rw [carryOut, hfetch, hsearch]
  exact ⟨reports_readAnswer _ _, rfl⟩

/-- The service gets the parameters that the client was given, whatever characters they hold: an
option that is absent stays absent, and one that is empty stays empty. So for every service, every
site with a router and every name that an address may hold as it is, the client prints what building
and executing a request for these parameters gives. -/
theorem search_reported (query : String) (facets sort : Option String) {page limit : Int}
    (hpage : Word.fits page = true) (hlimit : Word.fits limit = true) :
    SearchParameters.ofQuery (Web.Form.encodePairs (searchPairs query facets sort page limit)) =
        .ok ⟨query, facets, sort, page, limit⟩ ∧
      ∀ (site : Site) (endpoint name : String) (registry : Registry) (chains : Chains)
        (metrics : Bool), Router.make registry chains metrics = .ok site.router →
        IsAddressOf endpoint site → IsSafe name → ∀ s : Service σ,
          Reports (searchUrl endpoint name)
            (Service.search name ⟨query, facets, sort, page, limit⟩ { s with chains }).1
            (carryOut site endpoint (.search name query facets sort page limit) s).1 ∧
          (carryOut site endpoint (.search name query facets sort page limit) s).2 =
            { (Service.search name ⟨query, facets, sort, page, limit⟩ { s with chains }).2 with
              chains := s.chains } := by
  refine ⟨ofQuery_searchPairs query facets sort hpage hlimit, ?_⟩
  intro site endpoint name registry chains metrics hr haddress hname s
  exact carryOut_search hr haddress hname query facets sort hpage hlimit s

end Engine

def nearby (chains : Chains) : Site := ⟨"localhost".toList, 8000, Router.earlyRouter.routes, chains⟩

theorem make_nearby (chains : Chains) : Router.make .empty chains true = .ok (nearby chains).router :=
  rfl

theorem isAddressOf_nearby (chains : Chains) :
    IsAddressOf "http://localhost:8000" (nearby chains) where
  bare := by
    have hauthority : "localhost:8000".toList.all (fun c => !endsAuthority c) = true := by decide
    refine ⟨"http".toList, "//".toList, "localhost:8000".toList, by decide, by decide,
      List.all_eq_true.1 (by decide), by decide, fun c hc => ?_⟩
    have hinside := List.all_eq_true.1 hauthority c hc
    rwa [Bool.not_eq_true'] at hinside
  visible c hc := by
    have hvisible : "http://localhost:8000".toList.all (fun c => !isControlOrSpace c) = true := by
      decide
    simpa using List.all_eq_true.1 hvisible c hc
  reached := ⟨⟨false, "localhost".toList, 8000, ['/'], none⟩, by decide +kernel, rfl, rfl, rfl⟩

theorem isSafe_v1 : IsSafe "v1" where
  ne := by decide
  unreserved := List.all_eq_true.1 (by decide)
  one_dot := by decide
  two_dots := by decide

def servingText (document : String) : Service Memory :=
  (Service.start (Memory.fresh 1)).run
    [.register (.plain "v1"), .applyAll, .seed [(Json.ofString? document).getD .null] 1]

/-- Whether the body of a search is printed alike before and after it is read from its text. -/
def isSteady? (p : SearchParameters) (s : Service Memory) : Option Bool :=
  (Service.search "v1" p s).1.toOption.bind fun body =>
    ((Json.SyntaxTree.parse? ((Json.compact body).map some)).bind Json.SyntaxTree.toJson?).map
      fun value => Json.pretty 0 value == Json.pretty 0 body

theorem exists_body {p : SearchParameters} {s : Service Memory} {steady : Bool}
    (h : isSteady? p s = some steady) :
    ∃ body value, (Service.search "v1" p s).1 = .ok body ∧ Json.ofString? body.toText = some value ∧
      (steady = true ↔ value.toPrettyText = body.toPrettyText) := by
  obtain ⟨body, hbody, hread⟩ := Option.bind_eq_some_iff.1 h
  obtain ⟨value, hvalue, hsteady⟩ := Option.map_eq_some_iff.1 hread
  refine ⟨body, value, ?_, ?_, ?_⟩
  · cases hresult : (Service.search "v1" p s).1 with
    | ok other => rw [hresult] at hbody; cases hbody; rfl
    | error e => rw [hresult] at hbody; cases hbody
  · rw [Json.ofString?_toText_eq, hvalue]
  · rw [← hsteady, beq_iff_eq, Json.toPrettyText, Json.toPrettyText, String.ofList_inj]

def halfScore : String := "\x7b\"id\":1,\"score\":0.5\x7d"

def marked : SearchParameters := ⟨"50% off & é=e+1", some "", none, 1, 20⟩

theorem search_reported_for_halfScore :
    SearchParameters.ofQuery (Web.Form.encodePairs
        (searchPairs "50% off & é=e+1" (some "") none 1 20)) = .ok marked ∧
      ∃ body, (Service.search "v1" marked (servingText halfScore)).1 = .ok body ∧
        (carryOut (nearby (servingText halfScore).chains) "http://localhost:8000"
          (.search "v1" "50% off & é=e+1" (some "") none 1 20) (servingText halfScore)).1 =
            ⟨0, body.toPrettyText ++ "\n", ""⟩ := by
  have hsteady : isSteady? marked (servingText halfScore) = some true := by decide +kernel
  -- The service is named, so that it is evaluated for the first fact only.
  generalize servingText halfScore = s at hsteady ⊢
  obtain ⟨body, value, hbody, hvalue, hsame⟩ := exists_body hsteady
  obtain ⟨hsent, hsearch⟩ :=
    @search_reported Memory _ "50% off & é=e+1" (some "") none 1 20 (by decide) (by decide)
  obtain ⟨hreports, -⟩ := hsearch _ "http://localhost:8000" "v1" _ _ _ (make_nearby s.chains)
    (isAddressOf_nearby s.chains) isSafe_v1 s
  refine ⟨hsent, body, hbody, ?_⟩
  rw [hreports.read body value hbody hvalue, hsame.1 rfl]

def preciseScore : String := "\x7b\"id\":1,\"score\":0.9042127848932266\x7d"

/-- The client prints another number than the one in the body. -/
theorem search_altered_for_preciseScore :
    IsSafe "v1" ∧ ∃ site, Router.make .empty (servingText preciseScore).chains true =
        .ok site.router ∧ IsAddressOf "http://localhost:8000" site ∧
      ∃ body text, (Service.search "v1" .standard (servingText preciseScore)).1 = .ok body ∧
        (carryOut site "http://localhost:8000" (.search "v1" "" none none 1 20)
          (servingText preciseScore)).1 = ⟨0, text ++ "\n", ""⟩ ∧ text ≠ body.toPrettyText := by
  have haltered : isSteady? .standard (servingText preciseScore) = some false := by decide +kernel
  generalize servingText preciseScore = s at haltered ⊢
  obtain ⟨body, value, hbody, hvalue, hsame⟩ := exists_body haltered
  have hr := make_nearby s.chains
  have haddress := isAddressOf_nearby s.chains
  obtain ⟨hreports, -⟩ := @carryOut_search _ _ _ Memory _ _ _ _ hr haddress isSafe_v1 "" none none 1 20
    (by decide) (by decide) s
  refine ⟨isSafe_v1, _, hr, haddress, body, value.toPrettyText, hbody,
    hreports.read body value hbody hvalue, fun heq => ?_⟩
  exact Bool.false_ne_true (hsame.2 heq)

end CommandLine

end VariantSearch
