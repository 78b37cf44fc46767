import Mathlib.Data.List.Basic
import VariantSearch.Router

namespace VariantSearch.Router

variable {α : Type}

namespace Candidate

def along? : List Char → Candidate α → Option (Candidate α)
  | [], k => some k
  | c :: rest, k => (k.advance? c).bind (along? rest)

theorem along?_eq_none (before : List Char) {c d : Char} (hne : c ≠ d) (after : List Char)
    (left : Pattern) (captured : List Char) (leadsTo : α) :
    along? (before ++ c :: after)
      ⟨before.map .char ++ .char d :: left, captured, leadsTo⟩ = none := by
  induction before with
  | nil => simp [along?, advance?, hne.symm]
  | cons b before ih => simpa [along?, advance?] using ih

end Candidate

theorem choose_nil (inside : Bool) (path : List Char) :
    choose inside ([] : List (Candidate α)) path = none := by
  induction path generalizing inside with
  | nil => cases inside <;> rfl
  | cons c rest ih => cases inside <;> simp [choose, ih]

/-- Literal text goes before everything else, so what fits behind it is chosen. -/
theorem choose_append {candidates : List (Candidate α)} {text rest : List Char} {k : Candidate α}
    (h : choose false (candidates.filterMap (Candidate.along? text)) rest = some k) :
    choose false candidates (text ++ rest) = some k := by
  induction text generalizing candidates with
  | nil => simpa [Candidate.along?] using h
  | cons c text ih =>
    have hstep : candidates.filterMap (Candidate.along? (c :: text)) =
        (candidates.filterMap (Candidate.advance? c)).filterMap (Candidate.along? text) := by
      rw [List.filterMap_filterMap]
      rfl
    -- What the first character leaves of the candidates leads to an answer, so it is taken.
    rw [hstep] at h
    rw [List.cons_append, choose, ih h]

theorem choose_inside (captured : List Char) (leadsTo : α) {rest : List Char} (h : '/' ∉ rest) :
    choose true [⟨[], captured, leadsTo⟩] rest = some ⟨[], captured ++ rest, leadsTo⟩ := by
  induction rest generalizing captured with
  | nil => simp [choose, Candidate.isDone]
  | cons c rest ih =>
    have hc : c ≠ '/' := fun heq => h (heq ▸ List.mem_cons_self)
    have hrest : '/' ∉ rest := List.not_mem_of_not_mem_cons h
    rw [choose, if_neg hc, List.map_cons, List.map_nil, Candidate.capture, ih _ hrest,
      List.append_assoc, List.singleton_append]

/-- A segment that is not empty is the text of a parameter. -/
theorem choose_parameter (captured : List Char) (leadsTo : α) {segment : List Char}
    (hne : segment ≠ []) (h : '/' ∉ segment) :
    choose false [⟨[.parameter], captured, leadsTo⟩] segment = some ⟨[], segment, leadsTo⟩ := by
  obtain ⟨c, rest, rfl⟩ := List.exists_cons_of_ne_nil hne
  have hc : c ≠ '/' := fun heq => h (heq ▸ List.mem_cons_self)
  have hrest : '/' ∉ rest := List.not_mem_of_not_mem_cons h
  have hliteral : [⟨[Mark.parameter], captured, leadsTo⟩].filterMap (Candidate.advance? c) = [] :=
    rfl
  have henter : [⟨[Mark.parameter], captured, leadsTo⟩].filterMap (Candidate.enter? c) =
      [⟨[], [c], leadsTo⟩] := rfl
  -- The literal way is closed at once, so the parameter is entered.
  rw [choose, hliteral, choose_nil, if_neg hc, henter, choose_inside _ _ hrest,
    List.singleton_append]

def routeOf? (text : String × Page) : Option (Pattern × Page) :=
  (Pattern.parse text.1).toOption.map fun pattern => (pattern, text.2)

theorem addRoute_eq_ok {routes routes' : List (Pattern × Page)} {text : String × Page}
    (h : addRoute routes text = .ok routes') : routes' = routes ++ (routeOf? text).toList := by
  unfold addRoute at h
  unfold routeOf?
  cases hparse : Pattern.parse text.1 with
  | error fault => rw [hparse] at h; cases h
  | ok pattern =>
    rw [hparse] at h
    simp only [bind, Except.bind] at h
    split at h
    · cases h
    · cases h
      rfl

theorem foldlM_addRoute_eq_ok {texts : List (String × Page)} {routes routes' : List (Pattern × Page)}
    (h : texts.foldlM addRoute routes = .ok routes') :
    routes' = routes ++ texts.filterMap routeOf? := by
  induction texts generalizing routes with
  | nil => cases h; simp
  | cons text texts ih =>
    rw [List.foldlM_cons] at h
    cases hadd : addRoute routes text with
    | error fault => rw [hadd] at h; cases h
    | ok next =>
      rw [hadd] at h
      rw [ih h, addRoute_eq_ok hadd, List.append_assoc]
      cases hroute : routeOf? text with
      | none => simp [hroute]
      | some route => simp [hroute]

/-- A router has a route for each of its texts, in their order. -/
theorem routes_of_make {registry : Registry} {chains : Chains} {metrics : Bool} {r : Router}
    (h : make registry chains metrics = .ok r) :
    r.routes = (routeTexts registry.names metrics).filterMap routeOf? := by
  unfold make at h
  cases hroutes : (routeTexts registry.names metrics).foldlM addRoute [] with
  | error fault => rw [hroutes] at h; cases h
  | ok routes =>
    rw [hroutes] at h
    cases h
    rw [foldlM_addRoute_eq_ok hroutes, List.nil_append]

theorem chains_of_make {registry : Registry} {chains : Chains} {metrics : Bool} {r : Router}
    (h : make registry chains metrics = .ok r) : r.chains = chains := by
  unfold make at h
  cases hroutes : (routeTexts registry.names metrics).foldlM addRoute [] with
  | error fault => rw [hroutes] at h; cases h
  | ok routes => rw [hroutes] at h; cases h; rfl

/-- A pattern starts with the characters of its text up to the first parameter or tail. -/
theorem readMarks_append_eq_ok {text rest : List Char} {before : Char} {pattern : Pattern}
    (hcolon : ':' ∉ text) (hstar : '*' ∉ text)
    (h : readMarks (.literal before) (text ++ rest) = .ok pattern) :
    ∃ left, pattern = text.map .char ++ left := by
  induction text generalizing before pattern with
  | nil => exact ⟨pattern, rfl⟩
  | cons c text ih =>
    obtain ⟨hc, hcolon⟩ := List.ne_and_not_mem_of_not_mem_cons hcolon
    obtain ⟨hc', hstar⟩ := List.ne_and_not_mem_of_not_mem_cons hstar
    rw [List.cons_append, readMarks, if_neg hc.symm, if_neg hc'.symm] at h
    cases hread : readMarks (.literal c) (text ++ rest) with
    | error fault => rw [hread] at h; cases h
    | ok more =>
      rw [hread] at h
      cases h
      obtain ⟨left, rfl⟩ := ih hcolon hstar hread
      exact ⟨left, rfl⟩

def behind? (text : List Char) (route : String × Page) : Option (Candidate Page) :=
  (routeOf? route).bind fun r => Candidate.along? text ⟨r.1, [], r.2⟩

/-- A route that has another literal character where it parts from the path is no candidate. -/
theorem behind?_eq_none {before rest : List Char} {c d : Char} (hne : c ≠ d) (after : List Char)
    {route : String × Page} (hroute : route.1.toList = (before ++ [d]) ++ rest)
    (hcolon : ':' ∉ before ++ [d]) (hstar : '*' ∉ before ++ [d]) :
    behind? (before ++ c :: after) route = none := by
  unfold behind? routeOf?
  cases hparse : Pattern.parse route.1 with
  | error fault => rfl
  | ok pattern =>
    rw [Pattern.parse, hroute] at hparse
    obtain ⟨left, rfl⟩ := readMarks_append_eq_ok hcolon hstar hparse
    have hpattern : (before ++ [d]).map Mark.char ++ left =
        before.map .char ++ .char d :: left := by
      rw [List.map_append, List.append_assoc]
      rfl
    rw [hpattern]
    exact Candidate.along?_eq_none before hne after left [] route.2

/-- The routes behind a text are those of the fixed routes, if no other route has the text. -/
theorem filterMap_behind? {text : List Char} {candidates : List (Candidate Page)}
    (hfixed : fixedRoutes.filterMap (behind? text) = candidates)
    (hnamed : ∀ name, behind? text (namedRoute name) = none)
    (hmetrics : behind? text ("/metrics", .metrics) = none) (names : List String) (metrics : Bool) :
    (routeTexts names metrics).filterMap (behind? text) = candidates := by
  have hnames : (names.map namedRoute).filterMap (behind? text) = [] := by
    rw [List.filterMap_map, List.filterMap_eq_nil_iff]
    exact fun name _ => hnamed name
  have hlast : (if metrics then [("/metrics", Page.metrics)] else []).filterMap (behind? text) = [] := by
    cases metrics with
    | true => exact List.filterMap_eq_nil_iff.2 fun route h => List.mem_singleton.1 h ▸ hmetrics
    | false => rfl
  rw [routeTexts, List.filterMap_append, List.filterMap_append, hfixed, hnames, hlast,
    List.append_nil, List.append_nil]

/-- A path leads to the page of the one route that has a parameter behind the text that it starts
with. -/
theorem find?_of_behind? {registry : Registry} {chains : Chains} {metrics : Bool} {r : Router}
    (hr : make registry chains metrics = .ok r) {text : List Char} {page : Page}
    (hbehind : (routeTexts registry.names metrics).filterMap (behind? text) =
      [⟨[.parameter], [], page⟩])
    {name : List Char} (hne : name ≠ []) (hslash : '/' ∉ name) :
    r.find? (text ++ name) = some (page, name) := by
  have hcandidates : (r.routes.map fun route => (⟨route.1, [], route.2⟩ : Candidate Page)).filterMap
      (Candidate.along? text) = [⟨[.parameter], [], page⟩] := by
    rw [← hbehind, routes_of_make hr, List.filterMap_map, List.filterMap_filterMap]
    rfl
  have hchoice := choose_parameter [] page hne hslash
  rw [← hcandidates] at hchoice
  rw [find?, choose_append hchoice, Option.map_some]

variable {registry : Registry} {chains : Chains} {metrics : Bool} {r : Router}

def searchPrefix : List Char := "/search/".toList

def variantPrefix : List Char := "/configurations/".toList

/-- Every router leads `/search/{name}` to the page that searches for the name. -/
theorem find?_search (hr : make registry chains metrics = .ok r) {name : List Char} (hne : name ≠ [])
    (hslash : '/' ∉ name) : r.find? (searchPrefix ++ name) = some (.search, name) := by
  -- The route of a name has an underscore where the path of a search has its second slash.
  have hnamed (name : String) : behind? searchPrefix (namedRoute name) = none := by
    have hroute : (namedRoute name).1.toList = ("/search".toList ++ ['_']) ++ name.toList :=
      String.toList_append
    have hnone := behind?_eq_none (show '/' ≠ '_' by decide) [] hroute (by decide) (by decide)
    exact hnone
  exact find?_of_behind? hr (filterMap_behind? rfl hnamed rfl registry.names metrics) hne hslash

/-- Every router leads `/configurations/{name}` to the page of the variant. -/
theorem find?_configuration (hr : make registry chains metrics = .ok r) {name : List Char}
    (hne : name ≠ []) (hslash : '/' ∉ name) :
    r.find? (variantPrefix ++ name) = some (.configuration, name) := by
  have hnamed (name : String) : behind? variantPrefix (namedRoute name) = none := by
    have hroute : (namedRoute name).1.toList =
        ("/".toList ++ ['s']) ++ ("earch_".toList ++ name.toList) := String.toList_append
    have hnone := behind?_eq_none (show 'c' ≠ 's' by decide) "onfigurations/".toList hroute
      (by decide) (by decide)
    exact hnone
  exact find?_of_behind? hr (filterMap_behind? rfl hnamed rfl registry.names metrics) hne hslash

end VariantSearch.Router
