import Mathlib.Data.List.Basic
import VariantSearch.Proofs.JsonText
import VariantSearch.Proofs.RankingTexts
import VariantSearch.Variant

namespace VariantSearch

namespace Json

/-- Members whose names do not repeat are found under their names, in whatever order these are asked
for. -/
theorem fields?_ofMembers {members picked : List (String × Json)}
    (hpicked : picked ⊆ members) (hnames : (members.map (·.1)).Nodup) :
    (ofMembers members).fields? (picked.map (·.1)) = some (picked.map (·.2)) := by
  change ((picked.map (·.1)).map (TextMap.ofList members).get?).mapM id = _
  rw [mapM_eq_some_iff, List.map_id, List.map_map, List.map_map]
  exact List.map_congr_left fun e he => TextMap.get?_ofList_of_mem hnames (hpicked he)

theorem fields?_ofMembers_self {members : List (String × Json)} {names : List String}
    (hnames : names.Nodup) (h : members.map (·.1) = names) :
    (ofMembers members).fields? names = some (members.map (·.2)) := by
  subst h
  exact fields?_ofMembers (List.Subset.refl members) hnames

theorem asTexts?_texts (l : List String) : (texts l).asTexts? = some l := by
  change (l.map text).mapM asText? = some l
  exact mapM_map_eq_some fun s _ => rfl

theorem asNatBelow?_nat {n bound : Nat} (h : n < bound) : (nat n).asNatBelow? bound = some n := by
  rw [nat, asNatBelow?, if_pos ⟨Int.natCast_nonneg n, Int.ofNat_lt.2 h⟩, Int.toNat_natCast]

end Json

theorem TextSet.ofJson?_toJson (set : TextSet) : TextSet.ofJson? set.toJson = some set := by
  rw [ofJson?, toJson, Json.asTexts?_texts, Option.map_some]
  exact congrArg some (TextSet.ext fun s => mem_ofList)

/-- A map is read back if its values are. -/
theorem TextMap.ofJson?_toJson {α : Type} {read? : Json → Option α} {write : α → Json}
    (h : ∀ a, read? (write a) = some a) (map : TextMap α) :
    TextMap.ofJson? read? (map.toJson write) = some map := by
  have hentries : (map.entries.map fun e => (e.1, write e.2)).mapM
      (fun e => (read? e.2).map (e.1, ·)) = some map.entries := by
    refine mapM_map_eq_some fun e _ => ?_
    dsimp only
    rw [h]
    rfl
  change ((map.entries.map fun e => (e.1, write e.2)).mapM
    (fun e => (read? e.2).map (e.1, ·))).bind (fun l => some (TextMap.ofList l)) = _
  rw [hentries, Option.bind_some, ofList_entries]

theorem FacetOrder.ofText?_toText (o : FacetOrder) : FacetOrder.ofText? o.toText = some o := by
  cases o <;> rfl

namespace TypoTolerance

/-- The document of the two word sizes. -/
theorem fields?_sizes (one two : Json) :
    (Json.ofMembers [("oneTypo", one), ("twoTypos", two)]).fields? ["oneTypo", "twoTypos"] =
      some [one, two] :=
  Json.fields?_ofMembers_self (by decide) rfl

theorem fields?_toJson (t : TypoTolerance) :
    t.toJson.fields? ["enabled", "minWordSizeForTypos", "disableOnAttributes"] =
      some [.bool t.enabled,
        .ofMembers [("oneTypo", .nat t.oneTypo.toNat), ("twoTypos", .nat t.twoTypos.toNat)],
        t.exactAttributes.toJson] :=
  Json.fields?_ofMembers_self (by decide) rfl

theorem ofJson?_toJson (t : TypoTolerance) : TypoTolerance.ofJson? t.toJson = some t := by
  have hone : (Json.nat t.oneTypo.toNat).asNatBelow? 256 = some t.oneTypo.toNat :=
    Json.asNatBelow?_nat t.oneTypo.toNat_lt
  have htwo : (Json.nat t.twoTypos.toNat).asNatBelow? 256 = some t.twoTypos.toNat :=
    Json.asNatBelow?_nat t.twoTypos.toNat_lt
  have hbyte (n : UInt8) : n.toNat.toUInt8 = n := UInt8.ofNat_toNat
  rw [ofJson?, fields?_toJson]
  dsimp only
  rw [fields?_sizes]
  dsimp only
  rw [hone, htwo, TextSet.ofJson?_toJson]
  change some (⟨t.enabled, t.oneTypo.toNat.toUInt8, t.twoTypos.toNat.toUInt8, t.exactAttributes⟩ :
    TypoTolerance) = some t
  rw [hbyte, hbyte]

end TypoTolerance

namespace RankingRule

theorem ofJson?_toText {rule : RankingRule} (h : rule.Named) :
    RankingRule.ofJson? (.text rule.toText) = some rule := by
  change (parse rule.toText).toOption = some rule
  rw [parse_toText h]
  rfl

theorem mapM_ofJson? {rules : List RankingRule} (h : ∀ rule ∈ rules, rule.Named) :
    ((rules.map toText).map Json.text).mapM RankingRule.ofJson? = some rules := by
  rw [List.map_map]
  exact mapM_map_eq_some fun rule hrule => ofJson?_toText (h rule hrule)

theorem named_of_ofJson? {j : Json} {rule : RankingRule} (h : RankingRule.ofJson? j = some rule) :
    rule.Named := by
  obtain ⟨text, -, hparse⟩ := Option.bind_eq_some_iff.1 h
  cases hresult : parse text with
  | error f =>
    rw [hresult] at hparse
    cases hparse
  | ok parsed =>
    rw [hresult] at hparse
    cases hparse
    exact named_of_parse hresult

end RankingRule

namespace Settings

def NamedRules (s : Settings) : Prop := ∀ rule ∈ s.ranking, rule.Named

instance (s : Settings) : Decidable s.NamedRules :=
  inferInstanceAs (Decidable (∀ rule ∈ s.ranking, rule.Named))

theorem fields?_toJson (s : Settings) :
    s.toJson.fields? partNames =
      some [s.filterable.toJson, s.sortable.toJson, .texts s.searchable,
        s.synonyms.toJson TextSet.toJson, s.stopWords.toJson, s.typos.toJson,
        .texts (s.ranking.map RankingRule.toText),
        .ofMembers [("maxTotalHits", .nat s.maxTotalHits.toNat)],
        .ofMembers
          [("maxValuesPerFacet", .nat s.maxFacetValues.toNat),
            ("sortFacetValuesBy", s.facetOrders.toJson fun o => .text o.toText)]] :=
  Json.fields?_ofMembers_self (by decide) rfl

theorem fields?_pages (hits : Json) :
    (Json.ofMembers [("maxTotalHits", hits)]).fields? ["maxTotalHits"] = some [hits] :=
  Json.fields?_ofMembers_self (by decide) rfl

theorem fields?_facets (values orders : Json) :
    (Json.ofMembers [("maxValuesPerFacet", values), ("sortFacetValuesBy", orders)]).fields?
        ["maxValuesPerFacet", "sortFacetValuesBy"] = some [values, orders] :=
  Json.fields?_ofMembers_self (by decide) rfl

theorem ofJson?_facetOrders (orders : TextMap FacetOrder) :
    TextMap.ofJson? (fun o => o.asAlternative?.bind FacetOrder.ofText?)
      (orders.toJson fun o => .text o.toText) = some orders :=
  TextMap.ofJson?_toJson FacetOrder.ofText?_toText orders

/-- Settings are read back from their document. -/
theorem ofJson?_toJson {s : Settings} (h : s.NamedRules) : Settings.ofJson? s.toJson = some s := by
  have hhits : (Json.nat s.maxTotalHits.toNat).asNatBelow? UInt64.size = some s.maxTotalHits.toNat :=
    Json.asNatBelow?_nat s.maxTotalHits.toNat_lt
  have hvalues : (Json.nat s.maxFacetValues.toNat).asNatBelow? UInt64.size =
      some s.maxFacetValues.toNat := Json.asNatBelow?_nat s.maxFacetValues.toNat_lt
  have hranking : (Json.texts (s.ranking.map RankingRule.toText)).asList? =
      some ((s.ranking.map RankingRule.toText).map Json.text) := rfl
  have hword (n : UInt64) : n.toNat.toUInt64 = n := UInt64.ofNat_toNat
  -- Every part is read back by itself.
  rw [ofJson?, fields?_toJson]
  dsimp only
  rw [fields?_pages, fields?_facets]
  simp only [TextSet.ofJson?_toJson, Json.asTexts?_texts, TextMap.ofJson?_toJson TextSet.ofJson?_toJson,
    TypoTolerance.ofJson?_toJson, hranking, RankingRule.mapM_ofJson? h, hhits, hvalues, hword,
    ofJson?_facetOrders, Option.bind_eq_bind, Option.bind_some, Option.pure_def]

/-- Only settings whose rules name their attributes are read from documents. -/
theorem namedRules_of_ofJson? {j : Json} {s : Settings} (h : Settings.ofJson? j = some s) :
    s.NamedRules := by
  unfold ofJson? at h
  split at h
  · split at h
    · simp only [Option.bind_eq_bind, Option.bind_eq_some_iff, Option.pure_def] at h
      obtain ⟨_, -, _, -, _, -, _, -, _, -, _, -, items, -, rules, hrules, _, -, _, -, _, -, heq⟩ := h
      cases heq
      intro rule hrule
      obtain ⟨item, -, hitem⟩ := exists_of_mem_mapM hrules hrule
      exact RankingRule.named_of_ofJson? hitem
    · cases h
  · cases h

end Settings

namespace Json

variable {limit : Nat}

theorem plain_texts (l : List String) : Plain (limit + 1) (texts l) := by
  refine .list fun item hitem => ?_
  obtain ⟨s, -, rfl⟩ := List.mem_map.1 hitem
  exact .text s

theorem plain_nat {n : Nat} (h : n < UInt64.size) : Plain limit (nat n) := by
  have hsize : UInt64.size = 0x10000000000000000 := rfl
  exact .integer ⟨by omega, by omega⟩

theorem plain_ofMembers {members : List (String × Json)}
    (h : members.Forall fun e => Plain limit e.2) : Plain (limit + 1) (ofMembers members) :=
  .object (TextMap.ofList members).ascending fun e he =>
    List.forall_iff_forall_mem.1 h e (TextMap.mem_of_mem_ofList he)

theorem plain_toJson {α : Type} {write : α → Json} (h : ∀ a, Plain limit (write a))
    (map : TextMap α) : Plain (limit + 1) (map.toJson write) := by
  refine .object ?_ ?_
  · rw [List.pairwise_map]
    exact map.ascending
  · intro e he
    obtain ⟨entry, -, rfl⟩ := List.mem_map.1 he
    exact h entry.2

end Json

theorem TextSet.plain_toJson {limit : Nat} (set : TextSet) : Json.Plain (limit + 1) set.toJson :=
  Json.plain_texts set.toList

theorem TypoTolerance.plain_toJson {limit : Nat} (t : TypoTolerance) :
    Json.Plain (limit + 2) t.toJson := by
  have hone : t.oneTypo.toNat < UInt64.size := Nat.lt_trans t.oneTypo.toNat_lt (by decide)
  have htwo : t.twoTypos.toNat < UInt64.size := Nat.lt_trans t.twoTypos.toNat_lt (by decide)
  have hsizes : Json.Plain (limit + 1)
      (.ofMembers [("oneTypo", .nat t.oneTypo.toNat), ("twoTypos", .nat t.twoTypos.toNat)]) :=
    Json.plain_ofMembers ⟨Json.plain_nat hone, Json.plain_nat htwo⟩
  exact Json.plain_ofMembers ⟨.bool t.enabled, hsizes, t.exactAttributes.plain_toJson⟩

theorem Settings.plain_toJson {limit : Nat} (s : Settings) : Json.Plain (limit + 3) s.toJson := by
  have hpages : Json.Plain (limit + 2)
      (.ofMembers [("maxTotalHits", .nat s.maxTotalHits.toNat)]) :=
    Json.plain_ofMembers (Json.plain_nat s.maxTotalHits.toNat_lt)
  have horders : Json.Plain (limit + 1) (s.facetOrders.toJson fun o => .text o.toText) :=
    Json.plain_toJson (fun o => .text o.toText) s.facetOrders
  have hfacets : Json.Plain (limit + 2)
      (.ofMembers [("maxValuesPerFacet", .nat s.maxFacetValues.toNat),
        ("sortFacetValuesBy", s.facetOrders.toJson fun o => .text o.toText)]) :=
    Json.plain_ofMembers ⟨Json.plain_nat s.maxFacetValues.toNat_lt, horders⟩
  exact Json.plain_ofMembers
    ⟨s.filterable.plain_toJson, s.sortable.plain_toJson, Json.plain_texts s.searchable,
      Json.plain_toJson TextSet.plain_toJson s.synonyms, s.stopWords.plain_toJson,
      s.typos.plain_toJson, Json.plain_texts _, hpages, hfacets⟩

/-- Settings are read back from the text of their document. -/
theorem Settings.ofString?_toText {s : Settings} (h : s.NamedRules) :
    (Json.ofString? s.toJson.toText).bind Settings.ofJson? = some s := by
  rw [Json.ofString?_toText s.plain_toJson, Option.bind_some, ofJson?_toJson h]

namespace Variant

def documentWith (v : Variant) (name value : String) : Json :=
  v.toJson.setMember name (.text value)

theorem documentWith_eq (v : Variant) (name value : String) :
    v.documentWith name value =
      .ofMembers
        [("index_uid", .text v.indexUid), ("name", .text v.name), ("primary_key", .text v.primaryKey),
          ("settings", v.settings.toJson), (name, .text value)] := rfl

/-- A variant is read back from its document, whatever state is written into it. -/
theorem ofJson?_documentWith {v : Variant} (h : v.settings.NamedRules) (state : String) :
    Variant.ofJson? (v.documentWith "state" state) = some v := by
  have hfields : (v.documentWith "state" state).fields?
      ["name", "index_uid", "primary_key", "settings"] =
        some [.text v.name, .text v.indexUid, .text v.primaryKey, v.settings.toJson] := by
    have hnames : ["index_uid", "name", "primary_key", "settings", "state"].Nodup := by decide
    have hpicked : [("name", Json.text v.name), ("index_uid", .text v.indexUid),
        ("primary_key", .text v.primaryKey), ("settings", v.settings.toJson)] ⊆
          [("index_uid", .text v.indexUid), ("name", .text v.name),
            ("primary_key", .text v.primaryKey), ("settings", v.settings.toJson),
            ("state", .text state)] := by
      simp
    exact Json.fields?_ofMembers hpicked hnames
  rw [ofJson?, hfields]
  dsimp only
  rw [Settings.ofJson?_toJson h]
  rfl

theorem plain_documentWith {limit : Nat} (v : Variant) (name value : String) :
    Json.Plain (limit + 4) (v.documentWith name value) := by
  rw [documentWith_eq]
  exact Json.plain_ofMembers
    ⟨.text v.indexUid, .text v.name, .text v.primaryKey, v.settings.plain_toJson, .text value⟩

end Variant

end VariantSearch
