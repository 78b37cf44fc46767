import Mathlib.Data.List.Basic
import VariantSearch.Json.Syntax
import VariantSearch.Proofs.RankingTexts
import VariantSearch.Proofs.TextMap
import VariantSearch.Proofs.Traversal
import VariantSearch.Settings.Document

/-!
Documents of settings that say the same in different ways.
-/

namespace VariantSearch

open Json (SyntaxTree)

namespace Settings

def ofTree? (t : SyntaxTree) : Option Settings := t.toJson?.bind ofJson?

/-- What a part of a settings document holds. -/
inductive Place where
  | settings
  | set
  | synonyms
  | typos
  | rules
  | rule
  /-- A part in which nothing but the order of members is without meaning. -/
  | other
deriving DecidableEq

namespace Place

def parts : Place → List (String × Place)
  | settings =>
    [("filterableAttributes", set), ("sortableAttributes", set), ("searchableAttributes", other),
      ("synonyms", synonyms), ("stopWords", set), ("typoTolerance", typos), ("rankingRules", rules),
      ("pagination", other), ("faceting", other)]
  | typos => [("enabled", other), ("minWordSizeForTypos", other), ("disableOnAttributes", set)]
  | _ => []

def member : Place → String → Place
  | synonyms, _ => set
  | place, name => (TextMap.lookup name place.parts).getD other

def partAt (parts : List (String × Place)) (position : Nat) : Place :=
  (parts[position]?.map (·.2)).getD other

def item : Place → Nat → Place
  | rules, _ => rule
  | place, position => partAt place.parts position

end Place

/-- The trees differ only in what has no meaning at a place. -/
inductive Alike : Place → SyntaxTree → SyntaxTree → Prop where
  | refl {place : Place} {t : SyntaxTree} : Alike place t t
  | trans {place : Place} {t u v : SyntaxTree} (first : Alike place t u) (second : Alike place u v) :
    Alike place t v
  /-- Members trade places, but those of one name keep their order, since the last of them counts. -/
  | reordered {place : Place} {members members' : List (Option (List Char) × SyntaxTree)}
    (h : ∀ name, members.filter (·.1 = name) = members'.filter (·.1 = name)) :
    Alike place (.object members) (.object members')
  /-- The elements of a set come in another order or another number of times. -/
  | elements {items items' : List SyntaxTree} (h : ∀ t, t ∈ items ↔ t ∈ items') :
    Alike .set (.list items) (.list items')
  /-- The direction of a rule is written in another mixture of cases. -/
  | direction {field written written' : String} {order : SortOrder}
    (h : SortOrder.lowered written = order.toText)
    (h' : SortOrder.lowered written' = order.toText) :
    Alike .rule (.string (some (field ++ ":" ++ written).toList))
      (.string (some (field ++ ":" ++ written').toList))
  | member {place : Place} {name : String} {t t' : SyntaxTree}
    {before after : List (Option (List Char) × SyntaxTree)} (h : Alike (place.member name) t t') :
    Alike place (.object (before ++ (some name.toList, t) :: after))
      (.object (before ++ (some name.toList, t') :: after))
  | item {place : Place} {t t' : SyntaxTree} {before after : List SyntaxTree}
    (h : Alike (place.item before.length) t t') :
    Alike place (.list (before ++ t :: after)) (.list (before ++ t' :: after))

/-- Members of different names may come in any order. -/
theorem Alike.of_perm {place : Place} {members members' : List (Option (List Char) × SyntaxTree)}
    (h : members.Perm members') (hnames : (members.map (·.1)).Nodup) :
    Alike place (.object members) (.object members') := by
  apply Alike.reordered
  intro name
  have hperm : (members.filter (·.1 = name)).Perm (members'.filter (·.1 = name)) := h.filter _
  have hdistinct : ((members.filter (·.1 = name)).map (·.1)).Nodup :=
    hnames.sublist (List.filter_sublist.map _)
  have hname : ∀ e ∈ members.filter (·.1 = name), e.1 = name := by
    intro e he
    simpa using (List.mem_filter.1 he).2
  revert hperm hdistinct hname
  generalize members.filter (·.1 = name) = found
  intro hperm hdistinct hname
  -- At most one member has the name, so there is nothing to be permuted.
  match found with
  | [] => exact (List.nil_perm.1 hperm).symm
  | [e] => exact List.singleton_perm.1 hperm
  | e :: f :: rest =>
    have he := hname e List.mem_cons_self
    have hf := hname f (List.mem_cons_of_mem e List.mem_cons_self)
    simp [he, hf] at hdistinct

def rules? (j : Json) : Option (List RankingRule) := j.asList?.bind (·.mapM RankingRule.ofJson?)

def Place.Agree : Place → Json → Json → Prop
  | settings, j, k => Settings.ofJson? j = Settings.ofJson? k
  | set, j, k => TextSet.ofJson? j = TextSet.ofJson? k
  | synonyms, j, k => TextMap.ofJson? TextSet.ofJson? j = TextMap.ofJson? TextSet.ofJson? k
  | typos, j, k => TypoTolerance.ofJson? j = TypoTolerance.ofJson? k
  | rules, j, k => rules? j = rules? k
  | rule, j, k => RankingRule.ofJson? j = RankingRule.ofJson? k
  | other, j, k => j = k

theorem Place.Agree.refl (place : Place) (j : Json) : place.Agree j j := by
  cases place <;> rfl

theorem Place.Agree.trans {place : Place} {i j k : Json} (h : place.Agree i j)
    (h' : place.Agree j k) : place.Agree i k := by
  cases place <;> exact Eq.trans h h'

inductive PartsAgree : List (String × Place) → List Json → List Json → Prop where
  | nil : PartsAgree [] [] []
  | cons {part : String × Place} {parts : List (String × Place)} {j k : Json} {js ks : List Json}
    (first : part.2.Agree j k) (rest : PartsAgree parts js ks) :
    PartsAgree (part :: parts) (j :: js) (k :: ks)

section Fields

variable {parts : List (String × Place)} {front back : List Json} {j k : Json}

/-- Objects whose members of the declared names mean the same have parts that mean the same. -/
theorem fields?_object (parts : List (String × Place)) {members members' : List (String × Json)}
    (h : ∀ part ∈ parts,
      Option.Rel part.2.Agree (TextMap.lookup part.1 members) (TextMap.lookup part.1 members')) :
    Option.Rel (PartsAgree parts) ((Json.object members).fields? (parts.map (·.1)))
      ((Json.object members').fields? (parts.map (·.1))) := by
  change Option.Rel (PartsAgree parts)
    (((parts.map (·.1)).map (TextMap.lookup · members)).mapM id)
    (((parts.map (·.1)).map (TextMap.lookup · members')).mapM id)
  induction parts with
  | nil => exact .some .nil
  | cons part parts ih =>
    have hfirst := h part List.mem_cons_self
    have hrest := ih fun part hpart => h part (List.mem_cons_of_mem _ hpart)
    rw [List.map_cons, List.map_cons, List.map_cons, List.mapM_cons, List.mapM_cons]
    apply rel_bind hfirst
    intro j k hjk
    apply rel_bind hrest
    intro js ks hjks
    exact .some (.cons hjk hjks)

/-- A list gives the parts if it has one item for each. -/
theorem fields?_list (names : List String) (items : List Json) :
    (Json.list items).fields? names = if items.length = names.length then some items else none := by
  change (if items.length ≤ names.length then
    some (items.map some ++ List.replicate (names.length - items.length) none) else none).bind
      (·.mapM id) = _
  by_cases hlonger : items.length ≤ names.length
  · rw [if_pos hlonger, Option.bind_some]
    by_cases hlength : items.length = names.length
    · rw [if_pos hlength, hlength, Nat.sub_self, List.replicate_zero, List.append_nil]
      exact mapM_map_eq_some fun _ _ => rfl
    · -- A value is missing at the end.
      have hmissing : none ∈ items.map some ++ List.replicate (names.length - items.length) none := by
        apply List.mem_append_right
        rw [List.mem_replicate]
        exact ⟨by omega, rfl⟩
      rw [if_neg hlength, Option.eq_none_iff_forall_ne_some]
      intro results hresults
      obtain ⟨b, hb⟩ := exists_of_mapM_eq_some hresults hmissing
      cases hb
  · rw [if_neg hlonger, if_neg fun hlength => hlonger (Nat.le_of_eq hlength)]
    rfl

theorem PartsAgree.refl {js : List Json} (h : js.length = parts.length) : PartsAgree parts js js := by
  induction js generalizing parts with
  | nil =>
    obtain rfl := List.eq_nil_of_length_eq_zero h.symm
    exact .nil
  | cons j js ih =>
    cases parts with
    | nil => cases h
    | cons part parts => exact .cons (.refl part.2 j) (ih (Nat.succ.inj h))

/-- Only the part at the position of the one item has to be looked at. -/
theorem PartsAgree.around (h : (Place.partAt parts front.length).Agree j k)
    (hlength : (front ++ j :: back).length = parts.length) :
    PartsAgree parts (front ++ j :: back) (front ++ k :: back) := by
  induction front generalizing parts with
  | nil =>
    cases parts with
    | nil => cases hlength
    | cons part parts => exact .cons h (.refl (Nat.succ.inj hlength))
  | cons first front ih =>
    cases parts with
    | nil => cases hlength
    | cons part parts => exact .cons (.refl part.2 first) (ih h (Nat.succ.inj hlength))

theorem fields?_list_around (h : (Place.partAt parts front.length).Agree j k) :
    Option.Rel (PartsAgree parts) ((Json.list (front ++ j :: back)).fields? (parts.map (·.1)))
      ((Json.list (front ++ k :: back)).fields? (parts.map (·.1))) := by
  have hsame : (front ++ k :: back).length = (front ++ j :: back).length := by
    rw [List.length_append, List.length_append, List.length_cons, List.length_cons]
  rw [fields?_list, fields?_list, hsame, List.length_map]
  by_cases hlength : (front ++ j :: back).length = parts.length
  · rw [if_pos hlength, if_pos hlength]
    exact .some (.around h hlength)
  · rw [if_neg hlength, if_neg hlength]
    exact .none

end Fields

def assemble? (filterable sortable : Option TextSet) (searchable : Option (List String))
    (synonyms : Option (TextMap TextSet)) (stopWords : Option TextSet) (typos : Option TypoTolerance)
    (ranking : Option (List RankingRule)) (pages facets : Json) : Option Settings :=
  match pages.fields? ["maxTotalHits"], facets.fields? ["maxValuesPerFacet", "sortFacetValuesBy"] with
  | some [maxTotalHits], some [maxFacetValues, facetOrders] => do
    return {
      filterable := ← filterable
      sortable := ← sortable
      searchable := ← searchable
      synonyms := ← synonyms
      stopWords := ← stopWords
      typos := ← typos
      ranking := ← ranking
      maxTotalHits := (← maxTotalHits.asNatBelow? UInt64.size).toUInt64
      maxFacetValues := (← maxFacetValues.asNatBelow? UInt64.size).toUInt64
      facetOrders :=
        ← TextMap.ofJson? (fun o => o.asAlternative?.bind FacetOrder.ofText?) facetOrders }
  | _, _ => none

theorem ofJson?_of_fields? {j filterable sortable searchable synonyms stopWords typos ranking pages
    facets : Json}
    (h : j.fields? partNames =
      some [filterable, sortable, searchable, synonyms, stopWords, typos, ranking, pages, facets]) :
    ofJson? j =
      assemble? (TextSet.ofJson? filterable) (TextSet.ofJson? sortable) searchable.asTexts?
        (TextMap.ofJson? TextSet.ofJson? synonyms) (TextSet.ofJson? stopWords)
        (TypoTolerance.ofJson? typos) (rules? ranking) pages facets := by
  rw [ofJson?, h, assemble?, rules?]
  dsimp only
  cases ranking.asList? <;> rfl

theorem ofJson?_of_partsAgree {j k : Json}
    (h : Option.Rel (PartsAgree Place.settings.parts) (j.fields? partNames) (k.fields? partNames)) :
    Settings.ofJson? j = Settings.ofJson? k := by
  rcases cases_of_rel h with ⟨hj, hk⟩ | ⟨js, ks, hj, hk, hparts⟩
  · rw [ofJson?, ofJson?, hj, hk]
  · obtain _ | ⟨hfilterable, hparts⟩ := hparts
    obtain _ | ⟨hsortable, hparts⟩ := hparts
    obtain _ | ⟨hsearchable, hparts⟩ := hparts
    obtain _ | ⟨hsynonyms, hparts⟩ := hparts
    obtain _ | ⟨hstopWords, hparts⟩ := hparts
    obtain _ | ⟨htypos, hparts⟩ := hparts
    obtain _ | ⟨hranking, hparts⟩ := hparts
    obtain _ | ⟨hpages, hparts⟩ := hparts
    obtain _ | ⟨hfacets, hparts⟩ := hparts
    obtain _ | _ := hparts
    simp only [Place.Agree] at hfilterable hsortable hsearchable hsynonyms hstopWords
    simp only [Place.Agree] at htypos hranking hpages hfacets
    rw [ofJson?_of_fields? hj, ofJson?_of_fields? hk, hfilterable, hsortable, hsearchable, hsynonyms,
      hstopWords, htypos, hranking, hpages, hfacets]

end Settings

theorem TypoTolerance.ofJson?_of_partsAgree {j k : Json}
    (h : Option.Rel (Settings.PartsAgree Settings.Place.typos.parts)
      (j.fields? ["enabled", "minWordSizeForTypos", "disableOnAttributes"])
      (k.fields? ["enabled", "minWordSizeForTypos", "disableOnAttributes"])) :
    TypoTolerance.ofJson? j = TypoTolerance.ofJson? k := by
  rcases cases_of_rel h with ⟨hj, hk⟩ | ⟨js, ks, hj, hk, hparts⟩
  · rw [ofJson?, ofJson?, hj, hk]
  · obtain _ | ⟨henabled, hparts⟩ := hparts
    obtain _ | ⟨hsizes, hparts⟩ := hparts
    obtain _ | ⟨hexact, hparts⟩ := hparts
    obtain _ | _ := hparts
    simp only [Settings.Place.Agree] at henabled hsizes hexact
    rw [ofJson?, ofJson?, hj, hk, henabled, hsizes]
    simp only [hexact]

/-- Maps whose values are read alike are read alike. -/
theorem TextMap.ofJson?_of_rel {α : Type} {read? : Json → Option α} {map map' : TextMap Json}
    (h : ∀ key, Option.Rel (fun j k => read? j = read? k) (map.get? key) (map'.get? key)) :
    TextMap.ofJson? read? (.ofMap map) = TextMap.ofJson? read? (.ofMap map') := by
  have hread : map.entries.map (fun e => (read? e.2).map (e.1, ·)) =
      map'.entries.map fun e => (read? e.2).map (e.1, ·) := by
    apply map_entries_eq fun key value => (read? value).map (key, ·)
    intro key
    exact map_eq_of_rel (h key) fun j k hjk => congrArg (Option.map (key, ·)) hjk
  have hmapM (entries : List (String × Json)) :
      entries.mapM (fun e => (read? e.2).map (e.1, ·)) =
        (entries.map fun e => (read? e.2).map (e.1, ·)).mapM id := by
    rw [List.mapM_map]
    rfl
  change (map.entries.mapM fun e => (read? e.2).map (e.1, ·)).bind (fun l => some (TextMap.ofList l)) =
    (map'.entries.mapM fun e => (read? e.2).map (e.1, ·)).bind (fun l => some (TextMap.ofList l))
  rw [hmapM, hmapM, hread]

/-- Sets that are written with the same elements are read alike. -/
theorem TextSet.ofJson?_of_mem_iff {js ks : List Json} (h : ∀ j, j ∈ js ↔ j ∈ ks) :
    TextSet.ofJson? (.list js) = TextSet.ofJson? (.list ks) := by
  change (js.mapM Json.asText?).map TextSet.ofList = (ks.mapM Json.asText?).map TextSet.ofList
  apply map_eq_of_rel (mapM_of_mem_iff h)
  intro texts texts' htexts
  apply TextSet.ext
  intro s
  rw [mem_ofList, mem_ofList, htexts]

namespace Settings

/-- An object means the same if one of its members does. -/
theorem agree_ofMembers {place : Place} {name : String} {j k : Json}
    (front back : List (String × Json)) (h : (place.member name).Agree j k) :
    place.Agree (.ofMembers (front ++ (name, j) :: back)) (.ofMembers (front ++ (name, k) :: back)) := by
  -- Whatever is looked up means the same.
  have hlook (key : String) : Option.Rel (place.member key).Agree
      ((TextMap.ofList (front ++ (name, j) :: back)).get? key)
      ((TextMap.ofList (front ++ (name, k) :: back)).get? key) := by
    rcases TextMap.get?_ofList_replace front back name key j k with heq | ⟨rfl, hj, hk⟩
    · rw [heq]
      exact rel_refl (Place.Agree.refl _) _
    · rw [hj, hk]
      exact .some h
  cases place with
  | settings =>
    apply ofJson?_of_partsAgree
    apply fields?_object Place.settings.parts
    intro part hpart
    have hplace : ∀ part ∈ Place.settings.parts, Place.settings.member part.1 = part.2 := by decide
    rw [← hplace part hpart]
    exact hlook part.1
  | synonyms => exact TextMap.ofJson?_of_rel hlook
  | typos =>
    apply TypoTolerance.ofJson?_of_partsAgree
    apply fields?_object Place.typos.parts
    intro part hpart
    have hplace : ∀ part ∈ Place.typos.parts, Place.typos.member part.1 = part.2 := by decide
    rw [← hplace part hpart]
    exact hlook part.1
  | other =>
    obtain rfl : j = k := h
    rfl
  -- The other places are no objects.
  | set => rfl
  | rules => rfl
  | rule => rfl

/-- A list means the same if one of its items does. -/
theorem agree_list {place : Place} {j k : Json} (front back : List Json)
    (h : (place.item front.length).Agree j k) :
    place.Agree (.list (front ++ j :: back)) (.list (front ++ k :: back)) := by
  cases place with
  | settings => exact ofJson?_of_partsAgree (fields?_list_around h)
  | typos => exact TypoTolerance.ofJson?_of_partsAgree (fields?_list_around h)
  | rules =>
    have hrule : RankingRule.ofJson? j = RankingRule.ofJson? k := h
    change (front ++ j :: back).mapM RankingRule.ofJson? = (front ++ k :: back).mapM RankingRule.ofJson?
    rw [mapM_around, mapM_around, hrule]
  | set =>
    obtain rfl : j = k := h
    rfl
  | other =>
    obtain rfl : j = k := h
    rfl
  -- The other places are no lists.
  | synonyms => rfl
  | rule => rfl

def memberWithin? (limit : Nat) (e : Option (List Char) × SyntaxTree) : Option (String × Json) :=
  e.1.bind fun name => (e.2.toJsonWithin? limit).bind fun j => some (String.ofList name, j)

theorem memberWithin?_some (limit : Nat) (name : String) (t : SyntaxTree) :
    memberWithin? limit (some name.toList, t) =
      (t.toJsonWithin? limit).bind fun j => some (name, j) := by
  rw [memberWithin?, Option.bind_some, String.ofList_toList]

/-- A reading within a depth that makes its value of what is read one level below. -/
structure Nests {α : Type} (make : α → Json) (inner : Nat → Option α) (outer : Nat → Option Json) :
    Prop where
  zero : outer 0 = none
  succ : ∀ limit, outer (limit + 1) = (inner limit).bind fun a => some (make a)

namespace Nests

variable {α : Type} {make : α → Json} {inner inner' : Nat → Option α} {outer outer' : Nat → Option Json}

theorem eq_some_iff (h : Nests make inner outer) {limit : Nat} {j : Json} :
    outer limit = some j ↔ ∃ less a, limit = less + 1 ∧ inner less = some a ∧ j = make a := by
  cases limit with
  | zero =>
    rw [h.zero]
    constructor
    · intro hj
      cases hj
    · rintro ⟨less, a, hless, -⟩
      cases hless
  | succ limit =>
    rw [h.succ, Option.bind_eq_some_iff]
    constructor
    · rintro ⟨a, ha, hj⟩
      exact ⟨limit, a, rfl, ha, (Option.some.inj hj).symm⟩
    · rintro ⟨less, a, hless, ha, rfl⟩
      obtain rfl := Nat.succ.inj hless
      exact ⟨a, ha, rfl⟩

/-- Values mean the same if what they are made of does, however deep it may be. -/
theorem rel (h : Nests make inner outer) (h' : Nests make inner' outer') {place : Place}
    (hinner : ∀ limit, Option.Rel (fun a b => place.Agree (make a) (make b)) (inner limit)
      (inner' limit)) (limit : Nat) : Option.Rel place.Agree (outer limit) (outer' limit) := by
  cases limit with
  | zero =>
    rw [h.zero, h'.zero]
    exact .none
  | succ limit =>
    rw [h.succ, h'.succ]
    exact rel_bind (hinner limit) fun a b hab => .some hab

end Nests

theorem nests_object (members : List (Option (List Char) × SyntaxTree)) :
    Nests .ofMembers (fun limit => members.mapM (memberWithin? limit))
      fun limit => (SyntaxTree.object members).toJsonWithin? limit := by
  constructor
  · rw [SyntaxTree.toJsonWithin?]
  · intro limit
    rw [SyntaxTree.toJsonWithin?]
    rfl

theorem nests_list (items : List SyntaxTree) :
    Nests .list (fun limit => items.mapM (SyntaxTree.toJsonWithin? limit))
      fun limit => (SyntaxTree.list items).toJsonWithin? limit := by
  constructor
  · rw [SyntaxTree.toJsonWithin?]
  · intro limit
    rw [SyntaxTree.toJsonWithin?]
    exact Option.map_eq_bind

/-- What is read of the members of one name comes from the members of that name. -/
theorem filter_filterMap_memberWithin? (limit : Nat)
    (members : List (Option (List Char) × SyntaxTree)) (key : String) :
    (members.filterMap (memberWithin? limit)).filter (·.1 = key) =
      (members.filter (·.1 = some key.toList)).filterMap (memberWithin? limit) := by
  rw [List.filter_filterMap, List.filterMap_filter]
  apply List.filterMap_congr
  rintro ⟨name, t⟩ -
  cases name with
  | none => rfl
  | some name =>
    have hkey : String.ofList name = key ↔ name = key.toList := by
      rw [← String.toList_inj, String.toList_ofList]
    change Option.filter (fun e => decide (e.1 = key))
        ((t.toJsonWithin? limit).bind fun j => some (String.ofList name, j)) =
      if decide (some name = some key.toList) = true then
        (t.toJsonWithin? limit).bind fun j => some (String.ofList name, j) else none
    cases t.toJsonWithin? limit with
    | none => simp
    | some j => simp [Option.filter, hkey]

/-- Members are read in whatever order they come, as long as those of one name keep theirs. -/
theorem rel_reordered {place : Place} {members members' : List (Option (List Char) × SyntaxTree)}
    (h : ∀ name, members.filter (·.1 = name) = members'.filter (·.1 = name)) (limit : Nat) :
    Option.Rel (fun l m => place.Agree (.ofMembers l) (.ofMembers m))
      (members.mapM (memberWithin? limit)) (members'.mapM (memberWithin? limit)) := by
  have hmem (e : Option (List Char) × SyntaxTree) : e ∈ members ↔ e ∈ members' := by
    have hfilter (l : List (Option (List Char) × SyntaxTree)) :
        e ∈ l ↔ e ∈ l.filter (·.1 = e.1) := by
      rw [List.mem_filter, decide_eq_true_iff, and_iff_left rfl]
    rw [hfilter, h, ← hfilter]
  -- The same members are read, so both objects have values or neither has.
  rcases cases_of_rel (mapM_of_mem_iff (f := memberWithin? limit) hmem) with
    ⟨hl, hm⟩ | ⟨l, m, hl, hm, -⟩
  · rw [hl, hm]
    exact .none
  · have hlast : TextMap.ofList l = TextMap.ofList m := by
      apply TextMap.ofList_eq_of_filter
      intro key
      rw [eq_filterMap_of_mapM hl, eq_filterMap_of_mapM hm, filter_filterMap_memberWithin?, h,
        ← filter_filterMap_memberWithin?]
    have hsame : Json.ofMembers l = Json.ofMembers m :=
      congrArg (fun map : TextMap Json => Json.object map.entries) hlast
    rw [hl, hm, Option.rel_some_some, hsame]
    exact .refl place _

/-- A direction without an attribute in front is no rule. -/
theorem parse_unnamed {written : String} {order : SortOrder}
    (h : SortOrder.lowered written = order.toText) :
    RankingRule.parse ("" ++ ":" ++ written) = .error (.unknownRule ("" ++ ":" ++ written)) := by
  have hcut := Text.cutLast?_append (SortOrder.colon_not_mem h) "".toList
  simp only [RankingRule.parse, RankingRule.ofText?_clause, RankingRule.toList_clause, hcut]
  rfl

theorem ofJson?_clause {field written : String} {order : SortOrder}
    (h : SortOrder.lowered written = order.toText) :
    RankingRule.ofJson? (.text (field ++ ":" ++ written)) =
      if field = "" then none else some (.byAttribute field order) := by
  change (RankingRule.parse (field ++ ":" ++ written)).toOption = _
  by_cases hfield : field = ""
  · subst hfield
    rw [parse_unnamed h, if_pos rfl]
    rfl
  · rw [RankingRule.parse_clause h hfield, if_neg hfield]
    rfl

/-- What alike trees stand for means the same. -/
theorem Alike.agree {place : Place} {t t' : SyntaxTree} (h : Alike place t t') (limit : Nat) :
    Option.Rel place.Agree (t.toJsonWithin? limit) (t'.toJsonWithin? limit) := by
  -- By induction on the changes; the bound on the depth goes down with each part.
  induction h generalizing limit with
  | refl => exact rel_refl (Place.Agree.refl _) _
  | @trans place _ _ _ _ _ ih ih' =>
    exact rel_trans (R := place.Agree) (fun _ _ _ => Place.Agree.trans) (ih limit) (ih' limit)
  | reordered h => exact (nests_object _).rel (nests_object _) (rel_reordered h) limit
  | elements h =>
    apply (nests_list _).rel (nests_list _)
    intro limit
    rcases cases_of_rel (mapM_of_mem_iff (f := SyntaxTree.toJsonWithin? limit) h) with
      ⟨hjs, hks⟩ | ⟨js, ks, hjs, hks, hmem⟩
    · rw [hjs, hks]
      exact .none
    · rw [hjs, hks]
      exact .some (TextSet.ofJson?_of_mem_iff hmem)
  | @direction field written written' order h h' =>
    have hvalue (s : String) :
        (SyntaxTree.string (some s.toList)).toJsonWithin? limit = some (.text s) := by
      rw [SyntaxTree.toJsonWithin?, Option.map_some, String.ofList_toList]
    rw [hvalue, hvalue]
    exact .some ((ofJson?_clause h).trans (ofJson?_clause h').symm)
  | @member place name t t' before after _ ih =>
    apply (nests_object _).rel (nests_object _)
    intro limit
    rw [mapM_around, mapM_around, memberWithin?_some, memberWithin?_some]
    simp only [Option.bind_assoc, Option.bind_some]
    -- Only the value of the one member can differ.
    apply rel_bind (rel_refl Eq.refl (before.mapM (memberWithin? limit)))
    rintro front _ rfl
    apply rel_bind (ih limit)
    intro j k hjk
    apply rel_bind (rel_refl Eq.refl (after.mapM (memberWithin? limit)))
    rintro back _ rfl
    exact .some (agree_ofMembers front back hjk)
  | @item place t t' before after _ ih =>
    apply (nests_list _).rel (nests_list _)
    intro limit
    rw [mapM_around, mapM_around]
    cases hfront : before.mapM (SyntaxTree.toJsonWithin? limit) with
    | none => exact .none
    | some front =>
      rw [Option.bind_some, Option.bind_some]
      apply rel_bind (ih limit)
      intro j k hjk
      -- The value has the position of the item, which decides what it holds.
      rw [← length_of_mapM hfront] at hjk
      apply rel_bind (rel_refl Eq.refl (after.mapM (SyntaxTree.toJsonWithin? limit)))
      rintro back _ rfl
      exact .some (agree_list front back hjk)

/-- Alike documents are read as the same settings, or neither of them is read. -/
theorem ofTree?_of_alike {t t' : SyntaxTree} (h : Alike .settings t t') : ofTree? t' = ofTree? t :=
  (bind_eq_of_rel (h.agree Json.nestingLimit) fun _ _ hjk => hjk).symm

end Settings

end VariantSearch
