import Mathlib.Data.List.Nodup
import VariantSearch.Proofs.AlikeDocuments

namespace VariantSearch

open Json (SyntaxTree)

namespace Settings

inductive Permuted (name : String) : SyntaxTree → SyntaxTree → Prop where
  | refl {t : SyntaxTree} : Permuted name t t
  | member {before after : List (Option (List Char) × SyntaxTree)} {items items' : List SyntaxTree}
    (hlast : ∀ e ∈ after, e.1 ≠ some name.toList) (h : items.Perm items') :
    Permuted name (.object (before ++ (some name.toList, .list items) :: after))
      (.object (before ++ (some name.toList, .list items') :: after))
  | item {before after items items' : List SyntaxTree}
    (hposition : partNames[before.length]? = some name) (h : items.Perm items') :
    Permuted name (.list (before ++ .list items :: after)) (.list (before ++ .list items' :: after))

/-- The value of a part in which one tree may differ from another: the same value, or a list of the
same items in another order. -/
inductive PartPermuted (t t' : SyntaxTree) : Json → Json → Prop where
  | same {j : Json} (h : t' = t) : PartPermuted t t' j j
  | list {limit : Nat} {items items' : List SyntaxTree} {js js' : List Json} (h : items.Perm items')
    (hjs : items.mapM (SyntaxTree.toJsonWithin? limit) = some js)
    (hjs' : items'.mapM (SyntaxTree.toJsonWithin? limit) = some js')
    (heq : items' = items → t' = t) : PartPermuted t t' (.list js) (.list js')

theorem fields?_ofMap_eq_some_iff {names : List String} {map : TextMap Json} {js : List Json} :
    (Json.ofMap map).fields? names = some js ↔ names.map map.get? = js.map some := by
  change (names.map map.get?).mapM id = some js ↔ _
  rw [mapM_eq_some_iff, List.map_id]

theorem fields?_list_eq_some_iff {names : List String} {items js : List Json} :
    (Json.list items).fields? names = some js ↔ items.length = names.length ∧ items = js := by
  rw [fields?_list, Option.ite_none_right_eq_some, Option.some.injEq]

theorem length_of_fields? {names : List String} {j : Json} {js : List Json}
    (h : j.fields? names = some js) : js.length = names.length := by
  cases j with
  | object members =>
    have hlength := length_of_mapM (f := id) (l := names.map (TextMap.lookup · members)) h
    rwa [List.length_map] at hlength
  | list items =>
    obtain ⟨hlength, rfl⟩ := fields?_list_eq_some_iff.1 h
    exact hlength
  | _ => cases h

/-- If what is found at names differs at most at one of them, so do the lists of what is found. -/
theorem map_eq_set {α : Type} {names : List String} {i : Nat} {name : String} {f g : String → α}
    (hnames : names.Nodup) (hi : names[i]? = some name) (h : ∀ key, key ≠ name → f key = g key) :
    names.map g = (names.map f).set i (g name) := by
  obtain ⟨hlt, hname⟩ := List.getElem?_eq_some_iff.1 hi
  apply List.ext_getElem
  · rw [List.length_set, List.length_map, List.length_map]
  · intro n hn hn'
    rw [List.length_map] at hn
    rw [List.getElem_set, List.getElem_map]
    by_cases hin : i = n
    · subst hin
      rw [if_pos rfl, hname]
    · have hne : names[n] ≠ name := by
        rw [← hname]
        exact fun heq => hin ((hnames.getElem_inj_iff.1 heq).symm)
      rw [if_neg hin, List.getElem_map, h _ hne]

theorem toJsonWithin?_list_eq_some_iff {limit : Nat} {items : List SyntaxTree} {j : Json} :
    (SyntaxTree.list items).toJsonWithin? limit = some j ↔
      ∃ less js, limit = less + 1 ∧ items.mapM (SyntaxTree.toJsonWithin? less) = some js ∧
        j = .list js :=
  (nests_list items).eq_some_iff

theorem toJsonWithin?_object_eq_some_iff {limit : Nat}
    {members : List (Option (List Char) × SyntaxTree)} {j : Json} :
    (SyntaxTree.object members).toJsonWithin? limit = some j ↔
      ∃ less l, limit = less + 1 ∧ members.mapM (memberWithin? less) = some l ∧ j = .ofMembers l :=
  (nests_object members).eq_some_iff

theorem nodup_partNames : partNames.Nodup := by decide

section Parts

variable {name : String} {limit i : Nat} {j : Json} {js : List Json} {items items' : List SyntaxTree}

/-- The last member of a name is one of the parts, and its value may be replaced. -/
theorem fields?_replace {front back : List (String × Json)} {v : Json} (v' : Json)
    (hi : partNames[i]? = some name) (hlast : ∀ e ∈ back, e.1 ≠ name)
    (hjs : (Json.ofMembers (front ++ (name, v) :: back)).fields? partNames = some js) :
    js[i]? = some v ∧
      (Json.ofMembers (front ++ (name, v') :: back)).fields? partNames = some (js.set i v') := by
  have hlook (w : Json) : (TextMap.ofList (front ++ (name, w) :: back)).get? name = some w :=
    TextMap.get?_ofList_around hlast
  have hother (key : String) (hkey : key ≠ name) :
      (TextMap.ofList (front ++ (name, v) :: back)).get? key =
        (TextMap.ofList (front ++ (name, v') :: back)).get? key := by
    rcases TextMap.get?_ofList_replace front back name key v v' with heq | ⟨hname, -, -⟩
    · exact heq
    · exact absurd hname hkey
  have hfound := fields?_ofMap_eq_some_iff.1 hjs
  constructor
  · have hat := congrArg (·[i]?) hfound
    simp only [List.getElem?_map, hi, Option.map_some, hlook] at hat
    obtain ⟨x, hx, hat⟩ := Option.map_eq_some_iff.1 hat.symm
    rw [hx, hat]
  · apply fields?_ofMap_eq_some_iff.2
    rw [map_eq_set nodup_partNames hi hother, hfound, hlook, List.map_set]

/-- Members of other names are read as members of other names. -/
theorem ne_of_mem_members {members : List (Option (List Char) × SyntaxTree)}
    {values : List (String × Json)} (h : ∀ e ∈ members, e.1 ≠ some name.toList)
    (hvalues : members.mapM (memberWithin? limit) = some values) : ∀ e ∈ values, e.1 ≠ name := by
  intro value hvalue hname
  obtain ⟨e, he, hread⟩ := exists_of_mem_mapM hvalues hvalue
  obtain ⟨cs, hcs, hread⟩ := Option.bind_eq_some_iff.1 hread
  obtain ⟨j, -, hread⟩ := Option.bind_eq_some_iff.1 hread
  obtain rfl := Option.some.inj hread
  apply h e he
  rw [hcs, ← hname, String.toList_ofList]

theorem exists_fields?_member {before after : List (Option (List Char) × SyntaxTree)}
    (hi : partNames[i]? = some name) (hlast : ∀ e ∈ after, e.1 ≠ some name.toList)
    (h : items.Perm items')
    (hj : (SyntaxTree.object (before ++ (some name.toList, .list items) :: after)).toJsonWithin? limit =
      some j)
    (hjs : j.fields? partNames = some js) :
    ∃ k less values values',
      (SyntaxTree.object (before ++ (some name.toList, .list items') :: after)).toJsonWithin? limit =
          some k ∧
        items.mapM (SyntaxTree.toJsonWithin? less) = some values ∧
        items'.mapM (SyntaxTree.toJsonWithin? less) = some values' ∧ js[i]? = some (.list values) ∧
        k.fields? partNames = some (js.set i (.list values')) := by
  obtain ⟨more, l, rfl, hl, rfl⟩ := toJsonWithin?_object_eq_some_iff.1 hj
  obtain ⟨front, e, back, hfront, he, hback, rfl⟩ := mapM_around_eq_some_iff.1 hl
  rw [memberWithin?_some] at he
  obtain ⟨v, hv, he⟩ := Option.bind_eq_some_iff.1 he
  obtain rfl := Option.some.inj he
  obtain ⟨less, values, rfl, hvalues, rfl⟩ := toJsonWithin?_list_eq_some_iff.1 hv
  obtain ⟨values', hvalues', -⟩ := exists_mapM_of_perm h hvalues
  obtain ⟨hx, hks⟩ := fields?_replace (.list values') hi (ne_of_mem_members hlast hback) hjs
  have hlist : (SyntaxTree.list items').toJsonWithin? (less + 1) = some (.list values') :=
    toJsonWithin?_list_eq_some_iff.2 ⟨less, values', rfl, hvalues', rfl⟩
  -- The member is read at the same depth, with its items in the other order.
  have hmember : memberWithin? (less + 1) (some name.toList, .list items') =
      some (name, .list values') := by
    rw [memberWithin?_some, hlist, Option.bind_some]
  have hread : (before ++ (some name.toList, .list items') :: after).mapM (memberWithin? (less + 1)) =
      some (front ++ (name, .list values') :: back) :=
    mapM_around_eq_some_iff.2 ⟨front, _, back, hfront, hmember, hback, rfl⟩
  refine ⟨.ofMembers (front ++ (name, .list values') :: back), less, values, values', ?_, hvalues,
    hvalues', hx, hks⟩
  exact toJsonWithin?_object_eq_some_iff.2 ⟨less + 1, _, rfl, hread, rfl⟩

theorem exists_fields?_item {before after : List SyntaxTree} (hi : partNames[i]? = some name)
    (hposition : partNames[before.length]? = some name) (h : items.Perm items')
    (hj : (SyntaxTree.list (before ++ .list items :: after)).toJsonWithin? limit = some j)
    (hjs : j.fields? partNames = some js) :
    ∃ k less values values',
      (SyntaxTree.list (before ++ .list items' :: after)).toJsonWithin? limit = some k ∧
        items.mapM (SyntaxTree.toJsonWithin? less) = some values ∧
        items'.mapM (SyntaxTree.toJsonWithin? less) = some values' ∧ js[i]? = some (.list values) ∧
        k.fields? partNames = some (js.set i (.list values')) := by
  obtain ⟨more, l, rfl, hl, rfl⟩ := toJsonWithin?_list_eq_some_iff.1 hj
  obtain ⟨front, v, back, hfront, hv, hback, rfl⟩ := mapM_around_eq_some_iff.1 hl
  obtain ⟨less, values, rfl, hvalues, rfl⟩ := toJsonWithin?_list_eq_some_iff.1 hv
  obtain ⟨values', hvalues', -⟩ := exists_mapM_of_perm h hvalues
  obtain ⟨hlength, rfl⟩ := fields?_list_eq_some_iff.1 hjs
  -- No other part has this name, so the list stands at the position of the part.
  obtain ⟨hlt, -⟩ := List.getElem?_eq_some_iff.1 hi
  obtain rfl : i = front.length := by
    rw [length_of_mapM hfront]
    exact (List.getElem?_inj hlt nodup_partNames).1 (hi.trans hposition.symm)
  refine ⟨.list (front ++ .list values' :: back), less, values, values', ?_, hvalues, hvalues', ?_, ?_⟩
  · have hlist : (SyntaxTree.list items').toJsonWithin? (less + 1) = some (.list values') :=
      toJsonWithin?_list_eq_some_iff.2 ⟨less, values', rfl, hvalues', rfl⟩
    have hread : (before ++ .list items' :: after).mapM (SyntaxTree.toJsonWithin? (less + 1)) =
        some (front ++ .list values' :: back) :=
      mapM_around_eq_some_iff.2 ⟨front, _, back, hfront, hlist, hback, rfl⟩
    exact toJsonWithin?_list_eq_some_iff.2 ⟨less + 1, _, rfl, hread, rfl⟩
  · rw [List.getElem?_append_right (Nat.le_refl _), Nat.sub_self, List.getElem?_cons_zero]
  · apply fields?_list_eq_some_iff.2
    rw [List.length_append, List.length_cons] at hlength ⊢
    refine ⟨hlength, ?_⟩
    rw [List.set_append_right _ _ (Nat.le_refl _), Nat.sub_self, List.set_cons_zero]

/-- A permuted document has the same parts except one, which is permuted. -/
theorem Permuted.exists_fields? {t t' : SyntaxTree} (h : Permuted name t t')
    (hi : partNames[i]? = some name) (hj : t.toJsonWithin? limit = some j)
    (hjs : j.fields? partNames = some js) :
    ∃ k x x', t'.toJsonWithin? limit = some k ∧ js[i]? = some x ∧
      k.fields? partNames = some (js.set i x') ∧ PartPermuted t t' x x' := by
  cases h with
  | refl =>
    obtain ⟨hlt, -⟩ := List.getElem?_eq_some_iff.1 hi
    rw [← length_of_fields? hjs] at hlt
    refine ⟨j, js[i], js[i], hj, List.getElem?_eq_getElem hlt, ?_, .same rfl⟩
    rw [List.set_getElem_self]
    exact hjs
  | member hlast h =>
    obtain ⟨k, less, values, values', hk, hvalues, hvalues', hx, hks⟩ :=
      exists_fields?_member hi hlast h hj hjs
    refine ⟨k, _, _, hk, hx, hks, .list h hvalues hvalues' ?_⟩
    rintro rfl
    rfl
  | item hposition h =>
    obtain ⟨k, less, values, values', hk, hvalues, hvalues', hx, hks⟩ :=
      exists_fields?_item hi hposition h hj hjs
    refine ⟨k, _, _, hk, hx, hks, .list h hvalues hvalues' ?_⟩
    rintro rfl
    rfl

end Parts

section Reading

variable {β : Type} {g : Json → Option β}

def TellsApart (g : Json → Option β) : Prop :=
  ∀ (limit : Nat) (t u : SyntaxTree) (b : β), (t.toJsonWithin? limit).bind g = some b →
    (u.toJsonWithin? limit).bind g = some b → t = u

theorem eq_of_map_eq {α γ : Type} {f : α → γ} {l l' : List α}
    (hf : ∀ a ∈ l, ∀ b ∈ l', f a = f b → a = b) (h : l.map f = l'.map f) : l = l' := by
  induction l generalizing l' with
  | nil => exact (List.map_eq_nil_iff.1 h.symm).symm
  | cons a l ih =>
    cases l' with
    | nil => cases h
    | cons b l' =>
      obtain ⟨hab, hrest⟩ := List.cons.inj h
      obtain rfl := hf a List.mem_cons_self b List.mem_cons_self hab
      rw [ih (fun c hc d hd => hf c (List.mem_cons_of_mem a hc) d (List.mem_cons_of_mem a hd)) hrest]

theorem map_bind_of_mapM {α γ : Type} {f : α → Option γ} {g : γ → Option β} {l : List α} {m : List γ}
    {r : List β} (hm : l.mapM f = some m) (hr : m.mapM g = some r) :
    l.map (fun a => (f a).bind g) = r.map some := by
  calc l.map (fun a => (f a).bind g) = (l.map f).map (·.bind g) := by
        rw [List.map_map]
        rfl
    _ = (m.map some).map (·.bind g) := by rw [mapM_eq_some_iff.1 hm]
    _ = m.map g := List.map_map
    _ = r.map some := mapM_eq_some_iff.1 hr

/-- The permuted part is read as a permutation, which differs if the part does, as far as readings tell
items apart or do not repeat. -/
theorem PartPermuted.exists_read {t t' : SyntaxTree} {x x' : Json} {l : List β}
    (h : PartPermuted t t' x x') (hl : x.asList?.bind (·.mapM g) = some l) :
    ∃ l', x'.asList?.bind (·.mapM g) = some l' ∧ l.Perm l' ∧
      (l' = l → TellsApart g ∨ l.Nodup → t' = t) := by
  cases h with
  | same h => exact ⟨l, hl, List.Perm.refl l, fun _ _ => h⟩
  | @list limit items items' js js' h hjs hjs' heq =>
    have hl : js.mapM g = some l := hl
    obtain ⟨ks, hks, hperm⟩ := exists_mapM_of_perm h hjs
    obtain rfl : js' = ks := Option.some.inj (hjs'.symm.trans hks)
    obtain ⟨l', hl', hperm'⟩ := exists_mapM_of_perm hperm hl
    refine ⟨l', hl', hperm', fun hsame htells => heq ?_⟩
    subst hsame
    have hitems := map_bind_of_mapM hjs hl
    have hitems' := map_bind_of_mapM hjs' hl'
    -- Items with one reading are one item, since readings tell them apart or none comes twice.
    refine eq_of_map_eq ?_ (hitems'.trans hitems.symm)
    intro a ha b hb hab
    rcases htells with htells | hnodup
    · have hread : (b.toJsonWithin? limit).bind g ∈ l'.map some := by
        rw [← hitems]
        exact List.mem_map_of_mem hb
      obtain ⟨r, -, hr⟩ := List.mem_map.1 hread
      exact htells limit a b r (hab.trans hr.symm) hr.symm
    · have hdistinct : (items.map fun a => (a.toJsonWithin? limit).bind g).Nodup := by
        rw [hitems]
        exact hnodup.map (Option.some_injective β)
      exact List.inj_on_of_nodup_map hdistinct (h.mem_iff.2 ha) hb hab

end Reading

/-- No number is a string. -/
theorem asText?_of_number {l : Json.NumberLiteral} {j : Json} (h : l.toJson? = some j) :
    j.asText? = none := by
  unfold Json.NumberLiteral.toJson? at h
  dsimp only at h
  split at h
  · cases h
    rfl
  · split at h
    · cases h
      rfl
    · obtain ⟨x, -, rfl⟩ := Option.map_eq_some_iff.1 h
      rfl

/-- Only strings are read as strings. -/
theorem eq_string_of_asText? {limit : Nat} {t : SyntaxTree} {s : String}
    (h : (t.toJsonWithin? limit).bind Json.asText? = some s) : t = .string (some s.toList) := by
  obtain ⟨j, hj, hs⟩ := Option.bind_eq_some_iff.1 h
  -- Only a string is a text.
  cases t with
  | string content =>
    rw [SyntaxTree.toJsonWithin?] at hj
    obtain ⟨cs, rfl, rfl⟩ := Option.map_eq_some_iff.1 hj
    obtain rfl := Option.some.inj hs
    rw [String.toList_ofList]
  | number l =>
    rw [SyntaxTree.toJsonWithin?] at hj
    rw [asText?_of_number hj] at hs
    cases hs
  | null =>
    rw [SyntaxTree.toJsonWithin?] at hj
    cases hj
    cases hs
  | bool b =>
    rw [SyntaxTree.toJsonWithin?] at hj
    cases hj
    cases hs
  | list items =>
    obtain ⟨less, js, -, -, rfl⟩ := toJsonWithin?_list_eq_some_iff.1 hj
    cases hs
  | object members =>
    obtain ⟨less, l, -, -, rfl⟩ := toJsonWithin?_object_eq_some_iff.1 hj
    cases hs

theorem tellsApart_asText? : TellsApart Json.asText? := by
  intro limit t u s ht hu
  rw [eq_string_of_asText? ht, eq_string_of_asText? hu]

theorem exists_fields?_of_ofJson? {j : Json} {s : Settings} (h : ofJson? j = some s) :
    ∃ filterable sortable searchable synonyms stopWords typos ranking pages facets,
      j.fields? partNames =
        some [filterable, sortable, searchable, synonyms, stopWords, typos, ranking, pages, facets] := by
  unfold ofJson? at h
  split at h
  · next hfields => exact ⟨_, _, _, _, _, _, _, _, _, hfields⟩
  · cases h

section Assemble

variable {filterable sortable : Option TextSet} {searchable : Option (List String)}
  {synonyms : Option (TextMap TextSet)} {stopWords : Option TextSet} {typos : Option TypoTolerance}
  {ranking : Option (List RankingRule)} {pages facets : Json} {s : Settings}

/-- Each of the two lists is taken over as it is read. -/
theorem assemble?_lists
    (h : assemble? filterable sortable searchable synonyms stopWords typos ranking pages facets =
      some s) :
    searchable = some s.searchable ∧ ranking = some s.ranking ∧
      ∀ attributes rules, assemble? filterable sortable (some attributes) synonyms stopWords typos
        (some rules) pages facets = some { s with searchable := attributes, ranking := rules } := by
  unfold assemble? at h ⊢
  split at h
  · next hpages hfacets =>
    simp only [Option.bind_eq_bind, Option.bind_eq_some_iff, Option.pure_def] at h
    obtain ⟨_, rfl, _, rfl, _, rfl, _, rfl, _, rfl, _, rfl, _, rfl, _, hhits, _, hvalues, _, horders,
      hs⟩ := h
    cases hs
    refine ⟨rfl, rfl, fun attributes rules => ?_⟩
    simp only [hhits, hvalues, horders, Option.bind_eq_bind, Option.bind_some, Option.pure_def]
  · cases h

end Assemble

variable {t t' : SyntaxTree} {s : Settings}

/-- The parts of a document from which settings are read, and what is read from a value with the same
parts except the two lists. -/
theorem exists_parts (h : ofTree? t = some s) :
    ∃ j filterable sortable searchable synonyms stopWords typos ranking pages facets,
      t.toJson? = some j ∧
        j.fields? partNames =
          some [filterable, sortable, searchable, synonyms, stopWords, typos, ranking, pages, facets] ∧
        searchable.asTexts? = some s.searchable ∧ rules? ranking = some s.ranking ∧
        ∀ k searchable' ranking' attributes rules,
          k.fields? partNames =
              some [filterable, sortable, searchable', synonyms, stopWords, typos, ranking', pages,
                facets] →
            searchable'.asTexts? = some attributes → rules? ranking' = some rules →
              ofJson? k = some { s with searchable := attributes, ranking := rules } := by
  obtain ⟨j, hj, hs⟩ := Option.bind_eq_some_iff.1 h
  obtain ⟨_, _, _, _, _, _, _, _, _, hjs⟩ := exists_fields?_of_ofJson? hs
  rw [ofJson?_of_fields? hjs] at hs
  obtain ⟨hsearchable, hranking, hlists⟩ := assemble?_lists hs
  refine ⟨j, _, _, _, _, _, _, _, _, _, hj, hjs, hsearchable, hranking, ?_⟩
  intro k searchable' ranking' attributes rules hk hattributes hrules
  rw [ofJson?_of_fields? hk, hattributes, hrules]
  exact hlists attributes rules

/-- The searchable attributes are read in the order in which they come. -/
theorem Permuted.exists_searchable (h : Permuted "searchableAttributes" t t')
    (ht : ofTree? t = some s) :
    ∃ attributes, ofTree? t' = some { s with searchable := attributes } ∧
      s.searchable.Perm attributes ∧ (attributes = s.searchable → t' = t) := by
  obtain ⟨j, _, _, _, _, _, _, _, _, _, hj, hjs, hsearchable, hranking, hreplace⟩ := exists_parts ht
  have hposition : partNames[2]? = some "searchableAttributes" := rfl
  obtain ⟨k, x, x', hk, hx, hks, hpart⟩ := h.exists_fields? hposition hj hjs
  obtain rfl := Option.some.inj hx
  obtain ⟨attributes, hattributes, hperm, hdistinct⟩ := hpart.exists_read hsearchable
  refine ⟨attributes, ?_, hperm, fun heq => hdistinct heq (Or.inl tellsApart_asText?)⟩
  rw [ofTree?, SyntaxTree.toJson?, hk, Option.bind_some]
  exact hreplace k x' _ attributes _ hks hattributes hranking

/-- The ranking rules are read in the order in which they come. -/
theorem Permuted.exists_ranking (h : Permuted "rankingRules" t t') (ht : ofTree? t = some s) :
    ∃ rules, ofTree? t' = some { s with ranking := rules } ∧ s.ranking.Perm rules ∧
      (rules = s.ranking → s.ranking.Nodup → t' = t) := by
  obtain ⟨j, _, _, _, _, _, _, _, _, _, hj, hjs, hsearchable, hranking, hreplace⟩ := exists_parts ht
  have hposition : partNames[6]? = some "rankingRules" := rfl
  obtain ⟨k, x, x', hk, hx, hks, hpart⟩ := h.exists_fields? hposition hj hjs
  obtain rfl := Option.some.inj hx
  obtain ⟨rules, hrules, hperm, hdistinct⟩ := hpart.exists_read hranking
  refine ⟨rules, ?_, hperm, fun heq hnodup => hdistinct heq (Or.inr hnodup)⟩
  rw [ofTree?, SyntaxTree.toJson?, hk, Option.bind_some]
  exact hreplace k _ x' _ rules hks hsearchable hrules

end Settings

end VariantSearch
