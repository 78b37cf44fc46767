import VariantSearch.Proofs.ChainRuns
import VariantSearch.Proofs.Operations
import VariantSearch.Proofs.Searching
import VariantSearch.Proofs.Tallies

namespace VariantSearch

namespace Expansion

/-- A rule that was made appends the given expansion without the blanks at its ends. -/
theorem expansion_of_make {name trigger expansion : String} {mode : MatchMode} {rule : Expansion}
    (h : make name trigger expansion mode = .ok rule) :
    rule.expansion = Text.trimmed expansion ∧ rule.expansion ≠ "" := by
  refine ⟨?_, rule.expansion_ne⟩
  simp only [make] at h
  split at h
  · split at h
    · cases h
      rfl
    · cases h
  · cases h

end Expansion

/-- Labels are counted as often as the rules have their hash. -/
theorem Metrics.count_countFirings (m : Metrics) (name : String) (rules labels : List String) :
    (m.countFirings name rules).firings.count labels =
      m.firings.count labels +
        rules.countP fun rule => labelHash [name, rule] = labelHash labels := by
  have htally : (m.countFirings name rules).firings =
      m.firings.tally (rules.map fun rule => [name, rule]) := by
    rw [countFirings, SampleFamily.tally, List.foldl_map]
  rw [htally, SampleFamily.count_tally, List.countP_map]
  rfl

namespace SearchRequest

/-- A request that passed the checks has the text that the chain of its name leaves. -/
theorem text_of_build {registry : Registry} {chains : Chains} {name : String} {p : SearchParameters}
    {request : SearchRequest} {fired : List String}
    (h : build registry chains name p = .ok (request, fired)) :
    (⟨request.text, fired⟩ : Expanded) = chains.expand name p.query := by
  simp only [build] at h
  repeat' split at h
  all_goals cases h
  rfl

end SearchRequest

namespace Chains

def chainOf (chains : Chains) (name : String) : Chain := (chains.chain? name).getD []

/-- Without a chain of its own a name gets the query back. -/
theorem expand_of_none {chains : Chains} {name : String} (h : chains.chain? name = none)
    (query : String) : chains.expand name query = ⟨query, []⟩ := by
  rw [expand, h]
  rfl

end Chains

namespace Service

variable {σ : Type}

theorem expand_of_build {s s' : Service σ} {name : String} {p : SearchParameters}
    {request : SearchRequest} (h : build name p s = (.ok request, s')) :
    request.text = (s.chains.expand name p.query).text ∧
      s'.metrics = s.metrics.countFirings name (s.chains.expand name p.query).fired := by
  cases hbuild : SearchRequest.build s.registry s.chains name p with
  | error e =>
    rw [build_of_error hbuild] at h
    cases h
  | ok built =>
    obtain ⟨request', fired⟩ := built
    rw [build_of_ok hbuild] at h
    cases h
    rw [← SearchRequest.text_of_build hbuild]
    exact ⟨rfl, rfl⟩

/-- What a chain makes of a query is the query with, for each place that fires, a blank and the
expansion of the rule there; the places are chosen by going once through the chain. A successful build
takes this text, and adds to the number of each rule under the name how often the rules fired whose
labels have the same hash. That is how often the rule itself fired just if no other rule with the hash
did. -/
theorem build_expands (s : Service σ) (name query : String) :
    (∃ places, (s.chains.chainOf name).Cascade query places ∧
        s.chains.expand name query =
          ⟨Chain.appended query ((s.chains.chainOf name).rulesAt places),
            ((s.chains.chainOf name).rulesAt places).map (·.name)⟩) ∧
      (∃ more, (s.chains.expand name query).text = query ++ more) ∧
      ((s.chains.expand name query).text = query ↔ (s.chains.expand name query).fired = []) ∧
      (s.chains.chain? name = none → s.chains.expand name query = Chain.run [] query) ∧
      (∀ given trigger expansion mode rule,
        Expansion.make given trigger expansion mode = .ok rule →
          rule.expansion = Text.trimmed expansion ∧ rule.expansion ≠ "") ∧
      ∀ p request s', p.query = query → build name p s = (.ok request, s') →
        request.text = (s.chains.expand name query).text ∧
          ∀ rule,
            s'.metrics.firings.count [name, rule] = s.metrics.firings.count [name, rule] +
                (s.chains.expand name query).fired.countP
                  (fun other => labelHash [name, other] = labelHash [name, rule]) ∧
              (s'.metrics.firings.count [name, rule] = s.metrics.firings.count [name, rule] +
                  (s.chains.expand name query).fired.count rule ↔
                ∀ other ∈ (s.chains.expand name query).fired,
                  labelHash [name, other] = labelHash [name, rule] → other = rule) := by
  have hrun : s.chains.expand name query = (s.chains.chainOf name).run query := rfl
  refine ⟨⟨_, Chain.cascade_firingPlaces _ query, ?_⟩, ?_, ?_, ?_, ?_, ?_⟩
  · rw [hrun, Chain.run_eq]
  · rw [hrun, Chain.text_run]
    exact ⟨_, rfl⟩
  · rw [hrun, Chain.fired_eq_nil_iff]
  · intro hnone
    exact Chains.expand_of_none hnone query
  · intro given trigger expansion mode rule hmake
    exact Expansion.expansion_of_make hmake
  · rintro p request s' rfl hbuild
    obtain ⟨htext, hmetrics⟩ := expand_of_build hbuild
    rw [hmetrics]
    refine ⟨htext, fun rule => ?_⟩
    -- The names whose labels have the hash of these; the rule is one of them itself.
    let shares (other : String) : Bool := labelHash [name, other] = labelHash [name, rule]
    have hcount := Metrics.count_countFirings s.metrics name (s.chains.expand name p.query).fired
      [name, rule]
    have hself : shares rule = true := decide_eq_true rfl
    refine ⟨hcount, ?_⟩
    rw [hcount, Nat.add_left_cancel_iff]
    refine (countP_eq_count_iff hself _).trans ?_
    simp only [shares, decide_eq_true_eq]

def serviceWithChain : Service Unit :=
  ((start ()).register (.plain "v1")).bind "v1" [.smokeRule, Catalog.wildfire, .smokeRule]

theorem build_expands_for_serviceWithChain :
    Expansion.make "smoke" " Fire" "smoke " .wholeWord = .ok .smokeRule ∧
      ∃ request s', build "v1" { SearchParameters.standard with query := "Wildfire" } serviceWithChain =
          (.ok request, s') ∧
        request.text = "Wildfire fire smoke" ∧
          s'.metrics.firings.count ["v1", "smoke"] =
            serviceWithChain.metrics.firings.count ["v1", "smoke"] + 1 := by
  obtain ⟨-, -, -, -, -, hcounts⟩ := build_expands serviceWithChain "v1" "Wildfire"
  have hexpand : serviceWithChain.chains.expand "v1" "Wildfire" =
      ⟨"Wildfire fire smoke", ["wildfire-expansion", "smoke"]⟩ := by decide +kernel
  have hmake : Expansion.make "smoke" " Fire" "smoke " .wholeWord = .ok .smokeRule := rfl
  obtain ⟨htext, hcount⟩ := hcounts { SearchParameters.standard with query := "Wildfire" } _ _ rfl rfl
  rw [hexpand] at htext hcount
  exact ⟨hmake, _, _, rfl, htext, (hcount "smoke").2.2 (by decide +kernel)⟩

/-- Two rules for fire under one name, whose labels have one hash. -/
def serviceWithTwins : Service Unit :=
  ((start ()).register (.plain "v1")).bind "v1"
    [{ Expansion.smokeRule with name := "vhvd7keb7gofl" },
      { Expansion.smokeRule with name := "3dq2tefdbqhpf" }]

/-- Each of the two rules fired once, and the first one is counted twice. -/
theorem rule_counted_for_twin :
    serviceWithTwins.metrics = .empty ∧
      (serviceWithTwins.chains.expand "v1" "fire").fired = ["vhvd7keb7gofl", "3dq2tefdbqhpf"] ∧
      (build "v1" { SearchParameters.standard with query := "fire" }
        serviceWithTwins).2.metrics.firings.count ["v1", "vhvd7keb7gofl"] = 2 := by
  decide +kernel

end Service

end VariantSearch
