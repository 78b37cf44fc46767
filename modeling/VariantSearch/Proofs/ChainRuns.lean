import Mathlib.Data.List.Sort
import VariantSearch.Catalog
import VariantSearch.Proofs.TriggerMatching

namespace VariantSearch

def Expansion.smokeRule : Expansion :=
  ⟨"smoke", "fire".toList, "smoke", .wholeWord, by decide, by decide, by decide⟩

namespace Chain

variable {chain first rest : Chain} {rule : Expansion} {query : String} {places : List Nat} {i : Nat}

theorem run_append (first rest : Chain) (query : String) :
    run (first ++ rest) query =
      ⟨(run rest (run first query).text).text,
        (run first query).fired ++ (run rest (run first query).text).fired⟩ := by
  induction first generalizing query with
  | nil => rfl
  | cons rule first ih =>
    rw [List.cons_append, run, run]
    split
    · rw [ih]
      rfl
    · exact ih query

/-- A rule that fires on a query fires on what any chain makes of it. -/
theorem fires_run (chain : Chain) (h : rule.fires query = true) :
    rule.fires (run chain query).text = true := by
  induction chain generalizing query with
  | nil => exact h
  | cons other rest ih =>
    rw [run]
    split
    · exact ih (Expansion.fires_append h other.expansion)
    · exact ih h

def rulesAt (chain : Chain) (places : List Nat) : Chain := places.filterMap (chain[·]?)

def appended (query : String) (rules : Chain) : String :=
  query ++ String.join (rules.map fun rule => " " ++ rule.expansion)

/-- Whether the rule at a place mentions what the rules before it have left. -/
def firesAt (chain : Chain) (query : String) (i : Nat) : Bool :=
  chain[i]?.any fun rule => rule.fires (run (chain.take i) query).text

def firingPlaces (chain : Chain) (query : String) : List Nat :=
  (List.range chain.length).filter (chain.firesAt query)

theorem firesAt_iff :
    chain.firesAt query i = true ↔
      ∃ rule, chain[i]? = some rule ∧ rule.fires (run (chain.take i) query).text = true := by
  rw [firesAt, Option.any_eq_true]

theorem mem_firingPlaces : i ∈ chain.firingPlaces query ↔ chain.firesAt query i = true := by
  rw [firingPlaces, List.mem_filter, List.mem_range, and_iff_right_iff_imp]
  intro h
  obtain ⟨rule, hrule, -⟩ := firesAt_iff.1 h
  exact (List.getElem?_eq_some_iff.1 hrule).1

theorem lt_length_of_mem_firingPlaces (h : i ∈ chain.firingPlaces query) : i < chain.length :=
  List.mem_range.1 (List.mem_filter.1 h).1

theorem firesAt_append_of_lt (rest : Chain) (h : i < first.length) :
    firesAt (first ++ rest) query i = first.firesAt query i := by
  rw [firesAt, firesAt, List.getElem?_append_left h, List.take_append_of_le_length h.le]

theorem firesAt_append_add (first rest : Chain) (query : String) (i : Nat) :
    firesAt (first ++ rest) query (first.length + i) =
      rest.firesAt (run first query).text i := by
  rw [firesAt, firesAt, List.getElem?_append_right (Nat.le_add_right _ _), Nat.add_sub_cancel_left,
    List.take_length_add_append, run_append]

/-- What a chain fires is what its first rules fire, and what the others fire on the text they are
left. -/
theorem firingPlaces_append (first rest : Chain) (query : String) :
    firingPlaces (first ++ rest) query =
      first.firingPlaces query ++
        (rest.firingPlaces (run first query).text).map (first.length + ·) := by
  -- The places of the longer chain are those of the first one and, shifted, those of the second.
  have hfirst : (List.range first.length).filter (firesAt (first ++ rest) query) =
      first.firingPlaces query :=
    List.filter_congr fun i hi => firesAt_append_of_lt rest (List.mem_range.1 hi)
  have hrest : firesAt (first ++ rest) query ∘ (first.length + ·) =
      rest.firesAt (run first query).text :=
    funext fun i => firesAt_append_add first rest query i
  rw [firingPlaces, List.length_append, List.range_add, List.filter_append, hfirst,
    List.filter_map, hrest]
  rfl

theorem rulesAt_append_of_lt (rest : Chain) (h : ∀ i ∈ places, i < first.length) :
    rulesAt (first ++ rest) places = first.rulesAt places :=
  List.filterMap_congr fun i hi => List.getElem?_append_left (h i hi)

theorem rulesAt_map_add (first rest : Chain) (places : List Nat) :
    rulesAt (first ++ rest) (places.map (first.length + ·)) = rest.rulesAt places := by
  rw [rulesAt, List.filterMap_map]
  refine List.filterMap_congr fun i _ => ?_
  rw [Function.comp_apply, List.getElem?_append_right (Nat.le_add_right _ _),
    Nat.add_sub_cancel_left]

theorem rulesAt_firingPlaces_append (first rest : Chain) (query : String) :
    rulesAt (first ++ rest) (firingPlaces (first ++ rest) query) =
      first.rulesAt (first.firingPlaces query) ++
        rest.rulesAt (rest.firingPlaces (run first query).text) := by
  have hfirst := rulesAt_append_of_lt rest fun i (hi : i ∈ first.firingPlaces query) =>
    lt_length_of_mem_firingPlaces hi
  have hrest := rulesAt_map_add first rest (rest.firingPlaces (run first query).text)
  rw [firingPlaces_append, ← hfirst, ← hrest]
  exact List.filterMap_append

theorem appended_nil (query : String) : appended query [] = query := String.append_empty

theorem appended_cons (query : String) (rule : Expansion) (rules : Chain) :
    appended query (rule :: rules) = appended (rule.apply query) rules := by
  rw [appended, appended, List.map_cons, String.join_cons, Expansion.apply]
  simp only [String.append_assoc]

theorem appended_eq_self_iff {rules : Chain} : appended query rules = query ↔ rules = [] := by
  cases rules with
  | nil => simp [appended_nil]
  | cons rule rules =>
    have hne : " " ++ rule.expansion ++ String.join (rules.map fun rule => " " ++ rule.expansion) ≠
        "" := by
      simp
    rw [appended, List.map_cons, String.join_cons, String.append_eq_left_iff]
    exact iff_of_false hne (List.cons_ne_nil _ _)

theorem rulesAt_firingPlaces_singleton (rule : Expansion) (query : String) :
    rulesAt [rule] (firingPlaces [rule] query) = if rule.fires query then [rule] else [] := by
  have hfirst : firesAt [rule] query 0 = rule.fires query := rfl
  rw [firingPlaces, List.length_singleton, List.range_one]
  cases hfires : rule.fires query with
  | true =>
    rw [List.filter_cons_of_pos (hfirst.trans hfires)]
    rfl
  | false =>
    rw [List.filter_cons_of_neg (by rw [hfirst, hfires]; exact Bool.false_ne_true)]
    rfl

/-- A run appends the expansions at the firing places and reports the names there. -/
theorem run_eq (chain : Chain) (query : String) :
    run chain query =
      ⟨appended query (chain.rulesAt (chain.firingPlaces query)),
        (chain.rulesAt (chain.firingPlaces query)).map (·.name)⟩ := by
  induction chain generalizing query with
  | nil =>
    have hnone : rulesAt [] (firingPlaces [] query) = [] := rfl
    rw [run, hnone, appended_nil, List.map_nil]
  | cons rule rest ih =>
    -- What fires is what the first rule fires, and what the others fire on the text it leaves.
    have hsplit := rulesAt_firingPlaces_append [rule] rest query
    rw [List.singleton_append, rulesAt_firingPlaces_singleton] at hsplit
    rw [hsplit, run]
    by_cases hfires : rule.fires query = true
    · have hleft : (run [rule] query).text = rule.apply query := by
        rw [run, if_pos hfires]
        rfl
      rw [if_pos hfires, if_pos hfires, hleft, ih, List.singleton_append, appended_cons, List.map_cons]
    · have hleft : (run [rule] query).text = query := by
        rw [run, if_neg hfires]
        rfl
      rw [if_neg hfires, if_neg hfires, hleft, ih, List.nil_append]

theorem text_run (chain : Chain) (query : String) :
    (run chain query).text = appended query (chain.rulesAt (chain.firingPlaces query)) := by
  rw [run_eq]

theorem fired_run (chain : Chain) (query : String) :
    (run chain query).fired = (chain.rulesAt (chain.firingPlaces query)).map (·.name) := by
  rw [run_eq]

theorem fired_eq_nil_iff : (run chain query).fired = [] ↔ (run chain query).text = query := by
  rw [fired_run, text_run, List.map_eq_nil_iff, appended_eq_self_iff]

theorem fires_of_fires_take {i : Nat} (h : rule.fires (run (chain.take i) query).text = true) :
    rule.fires (run chain query).text = true := by
  have hfires := fires_run (chain.drop i) h
  have happend := run_append (chain.take i) (chain.drop i) query
  rw [List.take_append_drop] at happend
  rwa [happend]

/-- Without a firing the text is the query, and so no rule of the chain mentions it. -/
theorem fired_eq_nil_iff_forall :
    (run chain query).fired = [] ↔ ∀ rule ∈ chain, rule.fires query = false := by
  induction chain with
  | nil => simp [run]
  | cons rule rest ih =>
    rw [run, List.forall_mem_cons]
    cases hfires : rule.fires query with
    | true => simp
    | false => simpa using ih

/-- A run is stable. No place fires just if no rule of the chain mentions the query, and then the text
is the query. A rule that mentions the query fires wherever it stands. The chain fires on its own
result wherever it fired before. -/
theorem run_stable (chain : Chain) (query : String) :
    ((run chain query).fired = [] ↔ ∀ rule ∈ chain, rule.fires query = false) ∧
      ((run chain query).fired = [] → (run chain query).text = query) ∧
      (∀ i rule, chain[i]? = some rule → rule.fires query = true → i ∈ chain.firingPlaces query) ∧
      (chain.firingPlaces query).Sublist (chain.firingPlaces (run chain query).text) ∧
      ∀ text, (run chain text).fired = (chain.rulesAt (chain.firingPlaces text)).map (·.name) := by
  refine ⟨fired_eq_nil_iff_forall, fired_eq_nil_iff.1, ?_, ?_, fired_run chain⟩
  · intro i rule hrule hfires
    exact mem_firingPlaces.2 (firesAt_iff.2 ⟨rule, hrule, fires_run (chain.take i) hfires⟩)
  · refine List.monotone_filter_right _ fun i hi => ?_
    obtain ⟨rule, hrule, hfires⟩ := firesAt_iff.1 hi
    -- The rule mentions what it saw in the first run, so also the end of that run.
    have hresult : rule.fires (run chain query).text = true := fires_of_fires_take hfires
    exact firesAt_iff.2 ⟨rule, hrule, fires_run (chain.take i) hresult⟩

/-- The second run finds the word that the first one brought. -/
theorem run_stable_for_wildfire :
    run [.smokeRule, Catalog.wildfire] "Wildfire" = ⟨"Wildfire fire", ["wildfire-expansion"]⟩ ∧
      run [.smokeRule, Catalog.wildfire] "Wildfire fire" =
        ⟨"Wildfire fire smoke fire", ["smoke", "wildfire-expansion"]⟩ ∧
      1 ∈ firingPlaces [.smokeRule, Catalog.wildfire] "Wildfire fire" := by
  have hfirst : run [.smokeRule, Catalog.wildfire] "Wildfire" =
      ⟨"Wildfire fire", ["wildfire-expansion"]⟩ := by decide +kernel
  obtain ⟨-, -, hfires, hagain, -⟩ := run_stable [.smokeRule, Catalog.wildfire] "Wildfire"
  have hplace : 1 ∈ firingPlaces [.smokeRule, Catalog.wildfire] "Wildfire" :=
    hfires 1 Catalog.wildfire rfl (by decide +kernel)
  rw [hfirst] at hagain
  exact ⟨hfirst, by decide +kernel, hagain.subset hplace⟩

/-- The places that are chosen by going once through a chain: a place is chosen if its rule mentions
the query with the expansions at the chosen places before it. -/
structure Cascade (chain : Chain) (query : String) (places : List Nat) : Prop where
  ascending : places.Pairwise (· < ·)
  mem_iff : ∀ i, i ∈ places ↔ ∃ rule, chain[i]? = some rule ∧
    rule.fires (appended query (chain.rulesAt (places.filter (· < i)))) = true

/-- The firing places before a place are those of the rules before it. -/
theorem filter_lt_firingPlaces (chain : Chain) (query : String) (i : Nat) :
    (chain.firingPlaces query).filter (· < i) = firingPlaces (chain.take i) query := by
  have happend := firingPlaces_append (chain.take i) (chain.drop i) query
  rw [List.take_append_drop] at happend
  rw [happend, List.filter_append]
  -- All places in the front part are before `i`, and no place in the other one is.
  have hfirst : (firingPlaces (chain.take i) query).filter (· < i) =
      firingPlaces (chain.take i) query := by
    refine List.filter_eq_self.2 fun j hj => decide_eq_true ?_
    have hlt := lt_length_of_mem_firingPlaces hj
    rw [List.length_take] at hlt
    omega
  have hrest : ((firingPlaces (chain.drop i) (run (chain.take i) query).text).map
      ((chain.take i).length + ·)).filter (· < i) = [] := by
    refine List.filter_eq_nil_iff.2 fun j hj => ?_
    obtain ⟨k, hk, rfl⟩ := List.mem_map.1 hj
    have hlt := lt_length_of_mem_firingPlaces hk
    rw [List.length_drop] at hlt
    rw [List.length_take, decide_eq_true_eq]
    omega
  rw [hfirst, hrest, List.append_nil]

theorem rulesAt_take (chain : Chain) (i : Nat) (h : ∀ j ∈ places, j < i) :
    rulesAt (chain.take i) places = chain.rulesAt places :=
  List.filterMap_congr fun j hj => List.getElem?_take_of_lt (h j hj)

theorem cascade_firingPlaces (chain : Chain) (query : String) :
    Cascade chain query (chain.firingPlaces query) where
  ascending := (List.pairwise_lt_range).filter _
  mem_iff i := by
    have hseen : (run (chain.take i) query).text =
        appended query (chain.rulesAt ((chain.firingPlaces query).filter (· < i))) := by
      rw [text_run, filter_lt_firingPlaces, rulesAt_take]
      intro j hj
      have hlt := lt_length_of_mem_firingPlaces hj
      rw [List.length_take] at hlt
      omega
    rw [mem_firingPlaces, firesAt_iff, hseen]

end Chain

end VariantSearch
