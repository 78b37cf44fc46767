import Mathlib.Data.List.Nodup
import VariantSearch.Proofs.RegistryViews
import VariantSearch.Proofs.SearchRoute

namespace VariantSearch.Router

variable {α : Type}

/-- A path fits a pattern: literal text stands in it as it is, and a parameter and a tail stand for
some text, which is not empty. -/
inductive Fits : Pattern → List Char → Prop
  | done : Fits [] []
  | char {left : Pattern} {rest : List Char} (c : Char) (h : Fits left rest) :
      Fits (.char c :: left) (c :: rest)
  | parameter {left : Pattern} {segment rest : List Char} (hne : segment ≠ [])
      (hslash : '/' ∉ segment) (h : Fits left rest) : Fits (.parameter :: left) (segment ++ rest)
  | tail {rest : List Char} (hne : rest ≠ []) : Fits [.tail] rest

theorem Fits.of_append {text : List Char} {left : Pattern} {path : List Char}
    (h : Fits (text.map .char ++ left) path) : ∃ rest, path = text ++ rest ∧ Fits left rest := by
  induction text generalizing path with
  | nil => exact ⟨path, rfl, h⟩
  | cons c text ih =>
    cases h with
    | char _ h =>
      obtain ⟨rest, rfl, hrest⟩ := ih h
      exact ⟨rest, rfl, hrest⟩

/-- Only a text itself fits a pattern without parameters and tails. -/
theorem Fits.eq_of_literal {text path : List Char} (h : Fits (text.map .char) path) : path = text := by
  rw [← List.append_nil (text.map Mark.char)] at h
  obtain ⟨rest, rfl, hrest⟩ := h.of_append
  cases hrest
  exact List.append_nil text

/-- A path fits what is left of a pattern, if it may start inside a parameter. -/
def FitsFrom (inside : Bool) (left : Pattern) (path : List Char) : Prop :=
  ∃ segment rest, path = segment ++ rest ∧ (inside = false → segment = []) ∧ '/' ∉ segment ∧
    Fits left rest

theorem Fits.from {left : Pattern} {path : List Char} (h : Fits left path) (inside : Bool) :
    FitsFrom inside left path :=
  ⟨[], path, rfl, fun _ => rfl, List.not_mem_nil, h⟩

theorem FitsFrom.fits {left : Pattern} {path : List Char} (h : FitsFrom false left path) :
    Fits left path := by
  obtain ⟨segment, rest, rfl, hnil, -, hfits⟩ := h
  rw [hnil rfl]
  exact hfits

/-- A path of which the first character is read as literal text. -/
theorem exists_of_mem_advance {candidates : List (Candidate α)} {c : Char} {rest : List Char}
    {found : Candidate α} (h : found ∈ candidates.filterMap (Candidate.advance? c))
    (hfits : FitsFrom false found.left rest) (inside : Bool) :
    ∃ k ∈ candidates, k.leadsTo = found.leadsTo ∧ FitsFrom inside k.left (c :: rest) := by
  obtain ⟨k, hk, hadvance⟩ := List.mem_filterMap.1 h
  unfold Candidate.advance? at hadvance
  split at hadvance
  · next d left hleft =>
    split at hadvance
    · next hd =>
      cases hadvance
      subst hd
      -- The candidate read this character, so its own pattern starts with it.
      refine ⟨k, hk, rfl, Fits.from ?_ inside⟩
      rw [hleft]
      exact .char d hfits.fits
    · cases hadvance
  · cases hadvance

/-- A path of which the first character starts a parameter. -/
theorem exists_of_mem_enter {candidates : List (Candidate α)} {c : Char} {rest : List Char}
    {found : Candidate α} (hc : c ≠ '/') (h : found ∈ candidates.filterMap (Candidate.enter? c))
    (hfits : FitsFrom true found.left rest) :
    ∃ k ∈ candidates, k.leadsTo = found.leadsTo ∧ Fits k.left (c :: rest) := by
  obtain ⟨k, hk, henter⟩ := List.mem_filterMap.1 h
  obtain ⟨segment, rest, rfl, -, hslash, hrest⟩ := hfits
  unfold Candidate.enter? at henter
  split at henter
  · next left hleft =>
    cases henter
    refine ⟨k, hk, rfl, ?_⟩
    rw [hleft]
    have hsegment : '/' ∉ c :: segment := List.not_mem_cons_of_ne_of_not_mem hc.symm hslash
    exact .parameter (List.cons_ne_nil c segment) hsegment hrest
  · cases henter

/-- What a path leads to comes from a candidate whose pattern it fits. -/
theorem fits_of_choose {inside : Bool} {candidates : List (Candidate α)} {path : List Char}
    {k : Candidate α} (h : choose inside candidates path = some k) :
    ∃ found ∈ candidates, found.leadsTo = k.leadsTo ∧ FitsFrom inside found.left path := by
  -- On the path. What fits the rest is taken back over one character, which is literal text or
  -- belongs to a parameter.
  induction path generalizing inside candidates k with
  | nil =>
    have hfound : candidates.find? Candidate.isDone = some k := by cases inside <;> exact h
    have hdone : k.isDone = true := List.find?_some hfound
    have hleft : k.left = [] := List.isEmpty_iff.1 hdone
    refine ⟨k, List.mem_of_find?_eq_some hfound, rfl, Fits.from ?_ inside⟩
    rw [hleft]
    exact .done
  | cons c rest ih =>
    cases inside with
    | true =>
      rw [choose] at h
      split at h
      · obtain ⟨found, hfound, hleads, hfits⟩ := ih h
        obtain ⟨first, hfirst, hfirst', hfits'⟩ := exists_of_mem_advance hfound hfits true
        exact ⟨first, hfirst, hfirst'.trans hleads, hfits'⟩
      · next hc =>
        -- The character belongs to the segment that was begun.
        obtain ⟨found, hfound, hleads, segment, rest', rfl, -, hslash, hfits⟩ := ih h
        obtain ⟨first, hfirst, rfl⟩ := List.mem_map.1 hfound
        have hsegment : '/' ∉ c :: segment :=
          List.not_mem_cons_of_ne_of_not_mem (Ne.symm hc) hslash
        exact ⟨first, hfirst, hleads, c :: segment, rest', rfl, Bool.noConfusion, hsegment, hfits⟩
    | false =>
      rw [choose] at h
      split at h
      · next k' hk' =>
        cases h
        obtain ⟨found, hfound, hleads, hfits⟩ := ih hk'
        obtain ⟨first, hfirst, hfirst', hfits'⟩ := exists_of_mem_advance hfound hfits false
        exact ⟨first, hfirst, hfirst'.trans hleads, hfits'⟩
      · split at h
        · next k' hk' =>
          cases h
          -- No literal text goes on, so the character starts a parameter.
          split at hk'
          · cases hk'
          · next hc =>
            obtain ⟨found, hfound, hleads, hfits⟩ := ih hk'
            obtain ⟨first, hfirst, hfirst', hfits'⟩ := exists_of_mem_enter hc hfound hfits
            exact ⟨first, hfirst, hfirst'.trans hleads, hfits'.from false⟩
        · have htail : k.isTail = true := List.find?_some h
          have hleft : k.left = [.tail] := eq_of_beq htail
          refine ⟨k, List.mem_of_find?_eq_some h, rfl, Fits.from ?_ false⟩
          rw [hleft]
          exact .tail (List.cons_ne_nil c rest)

def IsPlain (text : String) : Prop := ':' ∉ text.toList ∧ '*' ∉ text.toList

theorem readMarks_of_plain {cs : List Char} (hcolon : ':' ∉ cs) (hstar : '*' ∉ cs) (before : Char) :
    readMarks (.literal before) cs = .ok (cs.map .char) := by
  induction cs generalizing before with
  | nil => rfl
  | cons c cs ih =>
    obtain ⟨hc, hcolon⟩ := List.ne_and_not_mem_of_not_mem_cons hcolon
    obtain ⟨hc', hstar⟩ := List.ne_and_not_mem_of_not_mem_cons hstar
    rw [readMarks, if_neg hc.symm, if_neg hc'.symm, ih hcolon hstar]
    rfl

theorem parse_of_isPlain {text : String} (h : IsPlain text) :
    Pattern.parse text = .ok (text.toList.map .char) :=
  readMarks_of_plain h.1 h.2 ' '

/-- Only a text itself is read as a pattern that is this text. -/
theorem eq_of_readMarks_eq_literal {cs text : List Char} {before : Char}
    (h : readMarks (.literal before) cs = .ok (text.map .char)) : cs = text := by
  induction cs generalizing before text with
  | nil =>
    cases text with
    | nil => rfl
    | cons c text => cases h
  | cons c cs ih =>
    rw [readMarks] at h
    split at h
    · -- A parameter is no character, and neither is a tail.
      cases hread : readMarks (.parameterName true) cs with
      | error fault => rw [hread] at h; cases h
      | ok left => rw [hread] at h; cases text <;> cases h
    · split at h
      · split at h
        · cases hread : readMarks (.tailName true) cs with
          | error fault => rw [hread] at h; cases h
          | ok left => rw [hread] at h; cases text <;> cases h
        · cases h
      -- A character is left, and the rest goes on as after it.
      · cases hread : readMarks (.literal c) cs with
        | error fault => rw [hread] at h; cases h
        | ok left =>
          rw [hread] at h
          cases text with
          | nil => cases h
          | cons d text =>
            obtain ⟨hd, hleft⟩ := List.cons.inj (Except.ok.inj h)
            cases hd
            rw [hleft] at hread
            rw [ih hread]

variable {registry : Registry} {chains : Chains} {metrics : Bool} {r : Router}

/-- A path leads only to the page of a route whose pattern fits it. -/
theorem exists_route_of_find? (hr : make registry chains metrics = .ok r) {path captured : List Char}
    {page : Page} (h : r.find? path = some (page, captured)) :
    ∃ route ∈ routeTexts registry.names metrics, route.2 = page ∧
      ∃ pattern, Pattern.parse route.1 = .ok pattern ∧ Fits pattern path := by
  obtain ⟨k, hk, hpage⟩ := Option.map_eq_some_iff.1 h
  obtain ⟨hpage, -⟩ := Prod.mk.inj hpage
  obtain ⟨found, hfound, hleads, hfits⟩ := fits_of_choose hk
  obtain ⟨⟨pattern, leadsTo⟩, hmem, rfl⟩ := List.mem_map.1 hfound
  rw [routes_of_make hr] at hmem
  obtain ⟨route, hroute, hparse⟩ := List.mem_filterMap.1 hmem
  unfold routeOf? at hparse
  cases hpattern : Pattern.parse route.1 with
  | error fault => rw [hpattern] at hparse; cases hparse
  | ok left =>
    rw [hpattern] at hparse
    cases hparse
    exact ⟨route, hroute, hleads.trans hpage, pattern, hpattern, hfits.fits⟩

def namedPrefix : List Char := "/search_".toList

theorem toList_namedRoute (name : String) :
    (namedRoute name).1.toList = namedPrefix ++ name.toList := String.toList_append

theorem isPlain_namedRoute {name : String} (h : IsPlain name) : IsPlain (namedRoute name).1 := by
  have hcolon : ':' ∉ namedPrefix := by decide
  have hstar : '*' ∉ namedPrefix := by decide
  unfold IsPlain
  rw [toList_namedRoute]
  exact ⟨fun hmem => (List.mem_append.1 hmem).elim hcolon h.1,
    fun hmem => (List.mem_append.1 hmem).elim hstar h.2⟩

theorem mem_routeTexts {names : List String} {metrics : Bool} {route : String × Page}
    (h : route ∈ routeTexts names metrics) :
    route ∈ fixedRoutes ∨ (∃ name ∈ names, route = namedRoute name) ∨
      route = ("/metrics", .metrics) := by
  rcases List.mem_append.1 h with h | h
  · rcases List.mem_append.1 h with h | h
    · exact Or.inl h
    · obtain ⟨name, hname, rfl⟩ := List.mem_map.1 h
      exact Or.inr (Or.inl ⟨name, hname, rfl⟩)
  · split at h
    · exact Or.inr (Or.inr (List.mem_singleton.1 h))
    · cases h

/-- No route but those of names starts like them. -/
theorem eq_namedRoute_of_prefix {names : List String} {metrics : Bool} {route : String × Page}
    (h : route ∈ routeTexts names metrics) (hstarts : namedPrefix <+: route.1.toList) :
    ∃ name ∈ names, route = namedRoute name := by
  have hfixed : ∀ other ∈ fixedRoutes, ¬ namedPrefix <+: other.1.toList := by decide
  have hmetrics : ¬ namedPrefix <+: "/metrics".toList := by decide
  rcases mem_routeTexts h with h | h | rfl
  · exact absurd hstarts (hfixed route h)
  · exact h
  · exact absurd hstarts hmetrics

theorem namedRoute_inj {name other : String} (h : (namedRoute name).1 = (namedRoute other).1) :
    name = other := by
  have hlists := congrArg String.toList h
  rw [toList_namedRoute, toList_namedRoute] at hlists
  exact String.toList_inj.1 (List.append_cancel_left hlists)

theorem along?_eq_some {text : List Char} {k k' : Candidate α}
    (h : Candidate.along? text k = some k') :
    k.left = text.map .char ++ k'.left ∧ k'.captured = k.captured ∧ k'.leadsTo = k.leadsTo := by
  induction text generalizing k with
  | nil =>
    cases h
    exact ⟨rfl, rfl, rfl⟩
  | cons c text ih =>
    obtain ⟨next, hnext, h⟩ := Option.bind_eq_some_iff.1 h
    obtain ⟨hleft, hcaptured, hleads⟩ := ih h
    unfold Candidate.advance? at hnext
    split at hnext
    · next d left hd =>
      split at hnext
      · next heq =>
        cases hnext
        subst heq
        refine ⟨?_, hcaptured, hleads⟩
        rw [hd, List.map_cons, List.cons_append]
        exact congrArg _ hleft
      · cases hnext
    · cases hnext

theorem along?_literal (text : List Char) (captured : List Char) (leadsTo : α) :
    Candidate.along? text ⟨text.map .char, captured, leadsTo⟩ = some ⟨[], captured, leadsTo⟩ := by
  induction text with
  | nil => rfl
  | cons c text ih => simpa [Candidate.along?, Candidate.advance?] using ih

/-- A route that a path exhausts as it stands has the path as its text. -/
theorem eq_of_behind?_of_isDone {text : List Char} {route : String × Page} {k : Candidate Page}
    (h : behind? text route = some k) (hdone : k.isDone = true) :
    route.1.toList = text ∧ k = ⟨[], [], route.2⟩ := by
  obtain ⟨⟨pattern, page⟩, hof, halong⟩ := Option.bind_eq_some_iff.1 h
  obtain ⟨hleft, hcaptured, hleads⟩ := along?_eq_some halong
  obtain ⟨left, captured, leadsTo⟩ := k
  obtain rfl : left = [] := List.isEmpty_iff.1 hdone
  obtain ⟨read, hread, heq⟩ := Option.map_eq_some_iff.1 hof
  obtain ⟨rfl, rfl⟩ := Prod.mk.inj heq
  dsimp only at hleft hcaptured hleads
  rw [List.append_nil] at hleft
  -- With nothing left, the pattern is the literal text that was read.
  have hparse : Pattern.parse route.1 = .ok (text.map .char) := by
    cases hresult : Pattern.parse route.1 with
    | error fault => rw [hresult] at hread; cases hread
    | ok pattern =>
      rw [hresult] at hread
      cases hread
      exact congrArg _ hleft
  refine ⟨eq_of_readMarks_eq_literal hparse, ?_⟩
  rw [hcaptured, hleads]

/-- The path that is the text of a plain name leads to the page of the name. -/
theorem find?_named (hr : make registry chains metrics = .ok r) {name : String}
    (hname : name ∈ registry.names) (hplain : IsPlain name) :
    r.find? (namedPrefix ++ name.toList) = some (.searchNamed name, []) := by
  let text := namedPrefix ++ name.toList
  let found := (routeTexts registry.names metrics).filterMap (behind? text)
  have hcandidates : (r.routes.map fun route => (⟨route.1, [], route.2⟩ : Candidate Page)).filterMap
      (Candidate.along? text) = found := by
    rw [routes_of_make hr, List.filterMap_map, List.filterMap_filterMap]
    rfl
  have hown : behind? text (namedRoute name) = some ⟨[], [], .searchNamed name⟩ := by
    have hroute : routeOf? (namedRoute name) = some (text.map .char, .searchNamed name) := by
      rw [routeOf?, parse_of_isPlain (isPlain_namedRoute hplain), toList_namedRoute]
      rfl
    rw [behind?, hroute, Option.bind_some, along?_literal]
  have hmem : (⟨[], [], .searchNamed name⟩ : Candidate Page) ∈ found := by
    refine List.mem_filterMap.2 ⟨namedRoute name, ?_, hown⟩
    exact List.mem_append_left _ (List.mem_append_right _ (List.mem_map.2 ⟨name, hname, rfl⟩))
  -- The route of the name is exhausted by the path, and no other one is.
  have hsome : (found.find? Candidate.isDone).isSome = true := List.find?_isSome.2 ⟨_, hmem, rfl⟩
  obtain ⟨k, hk⟩ := Option.isSome_iff_exists.1 hsome
  obtain ⟨route, hroute, hbehind⟩ := List.mem_filterMap.1 (List.mem_of_find?_eq_some hk)
  obtain ⟨htext, rfl⟩ := eq_of_behind?_of_isDone hbehind (List.find?_some hk)
  obtain ⟨other, -, rfl⟩ :=
    eq_namedRoute_of_prefix hroute (htext ▸ List.prefix_append namedPrefix _)
  obtain rfl : other = name := by
    rw [toList_namedRoute] at htext
    exact String.toList_inj.1 (List.append_cancel_left htext)
  rw [← hcandidates] at hk
  have hchoice : choose false (r.routes.map fun route => (⟨route.1, [], route.2⟩ : Candidate Page))
      (text ++ []) = some ⟨[], [], .searchNamed other⟩ := choose_append hk
  rw [List.append_nil] at hchoice
  rw [find?, hchoice, Option.map_some]

/-- A pattern without parameters and tails stands beside all patterns but itself. -/
theorem not_conflicts_of_ne {text : List Char} {other : Pattern} (h : other ≠ text.map .char) :
    Pattern.conflicts (text.map .char) other = false := by
  induction text generalizing other with
  | nil =>
    cases other with
    | nil => exact absurd rfl h
    | cons mark other => rfl
  | cons c text ih =>
    cases other with
    | nil => rfl
    | cons mark other =>
      rw [List.map_cons, Pattern.conflicts]
      split
      · next heq =>
        subst heq
        exact ih fun hrest => h (by rw [hrest, List.map_cons])
      · simp

theorem addRoute_of_isPlain {routes : List (Pattern × Page)} {text : String × Page}
    (hplain : IsPlain text.1) (hnew : ∀ route ∈ routes, route.1 ≠ text.1.toList.map .char) :
    addRoute routes text = .ok (routes ++ [(text.1.toList.map .char, text.2)]) := by
  have hnone : (routes.any fun other =>
      Pattern.conflicts (text.1.toList.map .char) other.1) = false := by
    rw [List.any_eq_false]
    intro route hroute
    rw [not_conflicts_of_ne (hnew route hroute)]
    decide
  rw [addRoute, parse_of_isPlain hplain]
  change (if (routes.any fun other => _) = true then _ else _) = _
  rw [hnone]
  rfl

/-- Plain texts that differ from each other and from what is there can all be added. -/
theorem foldlM_addRoute_of_isPlain {routes : List (Pattern × Page)} {texts : List (String × Page)}
    (hplain : ∀ text ∈ texts, IsPlain text.1) (hnodup : (texts.map (·.1)).Nodup)
    (hnew : ∀ text ∈ texts, ∀ route ∈ routes, route.1 ≠ text.1.toList.map .char) :
    ∃ routes', texts.foldlM addRoute routes = .ok routes' := by
  induction texts generalizing routes with
  | nil => exact ⟨routes, rfl⟩
  | cons text texts ih =>
    obtain ⟨htext, hplain⟩ := List.forall_mem_cons.1 hplain
    obtain ⟨hout, hnodup⟩ := List.nodup_cons.1 hnodup
    obtain ⟨hnewText, hnew⟩ := List.forall_mem_cons.1 hnew
    rw [List.foldlM_cons, addRoute_of_isPlain htext hnewText]
    refine ih hplain hnodup fun other hother route hroute => ?_
    rcases List.mem_append.1 hroute with hroute | hroute
    · exact hnew other hother route hroute
    · -- The text that was just added is none of the later ones.
      obtain rfl := List.mem_singleton.1 hroute
      intro heq
      have htexts : text.1.toList = other.1.toList :=
        List.map_injective_iff.2 (fun _ _ h => Mark.char.inj h) heq
      exact hout (List.mem_map.2 ⟨other, hother, (String.toList_inj.1 htexts).symm⟩)

theorem foldlM_fixedRoutes :
    fixedRoutes.foldlM addRoute [] = .ok (fixedRoutes.filterMap routeOf?) := rfl

/-- No fixed route has the text of another route. -/
theorem ne_of_mem_fixedRoutes {route : Pattern × Page}
    (h : route ∈ fixedRoutes.filterMap routeOf?) :
    route.1 ≠ "/metrics".toList.map .char ∧ ¬ namedPrefix.map .char <+: route.1 := by
  have hall : ∀ route ∈ fixedRoutes.filterMap routeOf?,
      route.1 ≠ "/metrics".toList.map .char ∧ ¬ namedPrefix.map .char <+: route.1 := by
    decide
  exact hall route h

/-- The routes of registered names and the one of the counters have different texts. -/
theorem nodup_routes (registry : Registry) (metrics : Bool) :
    ((registry.names.map namedRoute ++ if metrics then [("/metrics", Page.metrics)] else []).map
      (·.1)).Nodup := by
  have hnames : registry.names.Nodup := by
    refine registry.names_ascending.imp ?_
    rintro a _ hlt rfl
    exact String.lt_irrefl a hlt
  have hroutes : (registry.names.map ((·.1) ∘ namedRoute)).Nodup :=
    List.Nodup.map (fun _ _ => namedRoute_inj) hnames
  rw [List.map_append, List.map_map]
  refine List.nodup_append.2 ⟨hroutes, by cases metrics <;> simp, ?_⟩
  intro first hfirst second hsecond heq
  obtain ⟨name, -, rfl⟩ := List.mem_map.1 hfirst
  have hmetrics : second = "/metrics" := by
    cases metrics with
    | false => cases hsecond
    | true => exact List.mem_singleton.1 hsecond
  -- The route of the counters does not start as the others do.
  have hstarts : namedPrefix <+: (namedRoute name).1.toList := by
    rw [toList_namedRoute]
    exact List.prefix_append _ _
  have htext : (namedRoute name).1 = "/metrics" := heq.trans hmetrics
  have hnot : ¬ namedPrefix <+: "/metrics".toList := by decide
  rw [htext] at hstarts
  exact hnot hstarts

/-- A router can be made for plain names. -/
theorem exists_make (h : ∀ name ∈ registry.names, IsPlain name) (chains : Chains) (metrics : Bool) :
    ∃ r, make registry chains metrics = .ok r := by
  -- The routes that depend on the registry, behind the fixed ones.
  let later : List (String × Page) :=
    registry.names.map namedRoute ++ if metrics then [("/metrics", .metrics)] else []
  have hlater : ∀ text ∈ later,
      (∃ name ∈ registry.names, text = namedRoute name) ∨ text = ("/metrics", .metrics) := by
    intro text htext
    rcases List.mem_append.1 htext with htext | htext
    · obtain ⟨name, hname, rfl⟩ := List.mem_map.1 htext
      exact Or.inl ⟨name, hname, rfl⟩
    · cases metrics with
      | false => cases htext
      | true => exact Or.inr (List.mem_singleton.1 htext)
  have hplain : ∀ text ∈ later, IsPlain text.1 := by
    intro text htext
    rcases hlater text htext with ⟨name, hname, rfl⟩ | rfl
    · exact isPlain_namedRoute (h name hname)
    · exact ⟨by decide, by decide⟩
  have hnew : ∀ text ∈ later, ∀ route ∈ fixedRoutes.filterMap routeOf?,
      route.1 ≠ text.1.toList.map .char := by
    intro text htext route hroute heq
    obtain ⟨hmetrics, hnamed⟩ := ne_of_mem_fixedRoutes hroute
    rcases hlater text htext with ⟨name, -, rfl⟩ | rfl
    · rw [toList_namedRoute, List.map_append] at heq
      exact hnamed (heq ▸ List.prefix_append _ _)
    · exact hmetrics heq
  obtain ⟨routes, hroutes⟩ :=
    foldlM_addRoute_of_isPlain hplain (nodup_routes registry metrics) hnew
  refine ⟨⟨routes, chains⟩, ?_⟩
  rw [make, routeTexts, List.append_assoc, List.foldlM_append, foldlM_fixedRoutes]
  change (List.foldlM addRoute _ _ >>= fun routes => _) = _
  rw [hroutes]
  rfl

end VariantSearch.Router
