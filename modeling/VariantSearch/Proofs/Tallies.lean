import Mathlib.Data.List.Basic
import VariantSearch.Failure
import VariantSearch.Metrics

namespace VariantSearch

section Counting

variable {α β : Type}

/-- Items that give one counted result or none are counted as their results. -/
theorem countP_flatMap_of_indicator {results : α → List β} {counted : β → Bool} {holds : α → Bool}
    (h : ∀ a, (results a).countP counted = if holds a then 1 else 0) (items : List α) :
    (items.flatMap results).countP counted = items.countP holds := by
  induction items with
  | nil => rfl
  | cons a items ih => rw [List.flatMap_cons, List.countP_append, h, ih, List.countP_cons, Nat.add_comm]

/-- A property of an item counts that item only just if no other item has it. -/
theorem countP_eq_count_iff [BEq α] [LawfulBEq α] {holds : α → Bool} {a : α} (ha : holds a = true)
    (items : List α) :
    items.countP holds = items.count a ↔ ∀ b ∈ items, holds b = true → b = a := by
  have hle (l : List α) : l.count a ≤ l.countP holds :=
    List.countP_mono_left fun b _ hb => by rwa [eq_of_beq hb]
  induction items with
  | nil => simp
  | cons b items ih =>
    have hle := hle items
    rw [List.countP_cons, List.count_cons, List.forall_mem_cons]
    by_cases hb : b = a
    · subst hb
      simpa [ha] using ih
    · by_cases hholds : holds b = true
      · -- Another item with the property makes the numbers differ, and they never meet again.
        have hne : items.countP holds + 1 ≠ items.count a := by omega
        simp [hholds, hb, hne]
      · simpa [hb, hholds] using ih

end Counting

namespace SampleFamily

def tally (family : SampleFamily) (events : List (List String)) : SampleFamily :=
  events.foldl increment family

theorem tally_append (family : SampleFamily) (first second : List (List String)) :
    family.tally (first ++ second) = (family.tally first).tally second :=
  List.foldl_append

theorem count_tally (family : SampleFamily) (events : List (List String)) (labels : List String) :
    (family.tally events).count labels =
      family.count labels + events.countP fun event => labelHash event = labelHash labels := by
  induction events generalizing family with
  | nil => rfl
  | cons event events ih =>
    have hrest := ih (family.increment event)
    rw [tally] at hrest
    rw [tally, List.foldl_cons, hrest, count_increment, List.countP_cons, Nat.add_assoc,
      Nat.add_comm (events.countP _)]
    simp only [decide_eq_true_eq]

theorem labels_of_mem_tally {family : SampleFamily} {events : List (List String)} {sample : Sample}
    (h : sample ∈ (family.tally events).samples) :
    sample.labels ∈ events ∨ ∃ old ∈ family.samples, old.labels = sample.labels := by
  induction events generalizing family with
  | nil => exact Or.inr ⟨sample, h, rfl⟩
  | cons event events ih =>
    rcases ih h with h | ⟨old, hold, hlabels⟩
    · exact Or.inl (List.mem_cons_of_mem event h)
    · rcases labels_of_mem_bump hold with hevent | ⟨older, holder, holder'⟩
      · rw [← hlabels, hevent]
        exact Or.inl List.mem_cons_self
      · exact Or.inr ⟨older, holder, holder'.trans hlabels⟩

def Tells (family : SampleFamily) (events : List (List String)) : Prop :=
  ∀ labels, family.count labels = events.countP fun event => labelHash event = labelHash labels

theorem tells_tally (events : List (List String)) : (empty.tally events).Tells events := by
  intro labels
  rw [count_tally]
  exact Nat.zero_add _

end SampleFamily

def Unshared (labels : List String) (events : List (List String)) : Prop :=
  ∀ event ∈ events, labelHash event = labelHash labels → event = labels

/-- A number is that of its own labels just if no other labels with their hash were counted. -/
theorem SampleFamily.Tells.count_eq_iff {family : SampleFamily} {events : List (List String)}
    (h : family.Tells events) (labels : List String) :
    family.count labels = events.count labels ↔ Unshared labels events := by
  let shares (event : List String) : Bool := labelHash event = labelHash labels
  have hself : shares labels = true := decide_eq_true rfl
  rw [h labels]
  refine (countP_eq_count_iff hself events).trans ?_
  simp only [shares, decide_eq_true_eq, Unshared]

/-- The hash is that of all bytes one after another. -/
theorem labelHash_eq (labels : List String) :
    labelHash labels =
      (labels.flatMap Text.Utf8.ofString).foldl hashByte 0xCBF29CE484222325 := by
  rw [List.foldl_flatMap]
  rfl

theorem labelHash_pair_eq {name rule name' rule' : String} (h : name ++ rule = name' ++ rule') :
    labelHash [name, rule] = labelHash [name', rule'] := by
  have hbytes (first second : String) :
      [first, second].flatMap Text.Utf8.ofString = Text.Utf8.ofString (first ++ second) := by
    simp [Text.Utf8.ofString, Text.Utf8.encode, List.flatMap_append]
  rw [labelHash_eq, labelHash_eq, hbytes, hbytes, h]

def outcomeLabels : List String :=
  ["ok", "validation", "configuration", "engine_unavailable", "index_not_found", "engine_rejected"]

theorem outcomeLabel_mem {α : Type} (result : Except SearchFailure α) :
    outcomeLabel result ∈ outcomeLabels := by
  cases result with
  | ok a => exact List.mem_cons_self
  | error e => cases e <;> simp [outcomeLabel, SearchFailure.label, outcomeLabels]

end VariantSearch
