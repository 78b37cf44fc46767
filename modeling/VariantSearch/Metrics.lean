import VariantSearch.Text.Utf8

namespace VariantSearch

def hashByte (hash : UInt64) (byte : UInt8) : UInt64 := (hash ^^^ byte.toUInt64) * 0x100000001B3

/-- The hash FNV-1a of label values. Nothing marks where one value ends and the next one begins. -/
def labelHash (labels : List String) : UInt64 :=
  labels.foldl (fun hash label => (Text.Utf8.ofString label).foldl hashByte hash) 0xCBF29CE484222325

structure Sample where
  labels : List String
  count : Nat
deriving DecidableEq

/-- A family of samples. A sample is found by the hash of its labels alone, so labels that have the
hash of others share their sample, which keeps the labels that came first. -/
structure SampleFamily where
  samples : List Sample
  apart : samples.Pairwise fun a b => labelHash a.labels ≠ labelHash b.labels
deriving DecidableEq

namespace SampleFamily

def empty : SampleFamily := ⟨[], .nil⟩

instance : EmptyCollection SampleFamily := ⟨empty⟩

def bump (labels : List String) : List Sample → List Sample
  | [] => [⟨labels, 1⟩]
  | s :: rest =>
    if labelHash s.labels = labelHash labels then { s with count := s.count + 1 } :: rest
    else s :: bump labels rest

theorem labels_of_mem_bump {labels : List String} {l : List Sample} {sample : Sample}
    (h : sample ∈ bump labels l) :
    sample.labels = labels ∨ ∃ old ∈ l, old.labels = sample.labels := by
  induction l with
  | nil => exact Or.inl (by rw [List.mem_singleton.1 h])
  | cons s rest ih =>
    rw [bump] at h
    split at h
    · rcases List.mem_cons.1 h with rfl | h
      · exact Or.inr ⟨s, List.mem_cons_self, rfl⟩
      · exact Or.inr ⟨sample, List.mem_cons_of_mem s h, rfl⟩
    · rcases List.mem_cons.1 h with rfl | h
      · exact Or.inr ⟨sample, List.mem_cons_self, rfl⟩
      · rcases ih h with hlabels | ⟨old, hold, hlabels⟩
        · exact Or.inl hlabels
        · exact Or.inr ⟨old, List.mem_cons_of_mem s hold, hlabels⟩

theorem pairwise_bump {l : List Sample} (labels : List String)
    (h : l.Pairwise fun a b => labelHash a.labels ≠ labelHash b.labels) :
    (bump labels l).Pairwise fun a b => labelHash a.labels ≠ labelHash b.labels := by
  induction l with
  | nil => exact List.pairwise_singleton _ _
  | cons s rest ih =>
    obtain ⟨hs, hrest⟩ := List.pairwise_cons.1 h
    rw [bump]
    split
    · exact List.pairwise_cons.2 ⟨hs, hrest⟩
    · next hne =>
      refine List.pairwise_cons.2 ⟨fun b hb => ?_, ih hrest⟩
      rcases labels_of_mem_bump hb with hlabels | ⟨old, hold, hlabels⟩
      · rwa [hlabels]
      · rw [← hlabels]
        exact hs old hold

def increment (family : SampleFamily) (labels : List String) : SampleFamily :=
  ⟨bump labels family.samples, pairwise_bump labels family.apart⟩

def countIn (labels : List String) : List Sample → Nat
  | [] => 0
  | s :: rest => if labelHash s.labels = labelHash labels then s.count else countIn labels rest

def count (family : SampleFamily) (labels : List String) : Nat := countIn labels family.samples

def sorted (family : SampleFamily) : List Sample :=
  family.samples.mergeSort fun a b => !decide (b.labels < a.labels)

theorem countIn_bump (labels other : List String) (l : List Sample) :
    countIn other (bump labels l) =
      countIn other l + if labelHash labels = labelHash other then 1 else 0 := by
  induction l with
  | nil => simp [bump, countIn]
  | cons s rest ih =>
    rw [bump]
    by_cases hs : labelHash s.labels = labelHash labels
    · -- The sample that was found is the first of both hashes or of neither.
      rw [if_pos hs]
      by_cases ho : labelHash s.labels = labelHash other
      · simp [countIn, ho, ← hs]
      · have hne : labelHash labels ≠ labelHash other := fun h => ho (hs.trans h)
        simp [countIn, ho, hne]
    · rw [if_neg hs]
      by_cases ho : labelHash s.labels = labelHash other
      · have hne : labelHash labels ≠ labelHash other := fun h => hs (ho.trans h.symm)
        simp [countIn, ho, hne]
      · simp [countIn, ho, ih]

/-- An event adds one to the number of all labels that have its hash. -/
theorem count_increment (family : SampleFamily) (labels other : List String) :
    (family.increment labels).count other =
      family.count other + if labelHash labels = labelHash other then 1 else 0 :=
  countIn_bump labels other family.samples

end SampleFamily

structure Metrics where
  applies : SampleFamily
  firings : SampleFamily
  timings : SampleFamily
  searches : SampleFamily
deriving DecidableEq

namespace Metrics

def empty : Metrics := ⟨∅, ∅, ∅, ∅⟩

def countApply (m : Metrics) (name outcome : String) : Metrics :=
  { m with applies := m.applies.increment [name, outcome] }

def countFirings (m : Metrics) (name : String) (rules : List String) : Metrics :=
  { m with firings := rules.foldl (fun f rule => f.increment [name, rule]) m.firings }

def countTiming (m : Metrics) (name : String) : Metrics :=
  { m with timings := m.timings.increment [name] }

def countSearch (m : Metrics) (name outcome : String) : Metrics :=
  { m with searches := m.searches.increment [name, outcome] }

structure Heading where
  name : String
  kind : String
  help : String
  labelNames : List String
  sampleName : String

def escapeLabel (c : Char) : List Char :=
  if c = '\\' then ['\\', '\\']
  else if c = '\n' then ['\\', 'n']
  else if c = '"' then ['\\', '"']
  else [c]

def labelText (name value : String) : String :=
  name ++ "=\"" ++ String.ofList (value.toList.flatMap escapeLabel) ++ "\""

def sampleLine (h : Heading) (s : Sample) : String :=
  h.sampleName ++ "\x7b" ++ ",".intercalate (List.zipWith labelText h.labelNames s.labels) ++ "\x7d " ++
    toString s.count

def familyLines (h : Heading) (family : SampleFamily) : List String :=
  if family.samples.isEmpty then []
  else
    ("# HELP " ++ h.name ++ " " ++ h.help) :: ("# TYPE " ++ h.name ++ " " ++ h.kind) ::
      family.sorted.map (sampleLine h)

def lines (m : Metrics) : List String :=
  familyLines
      ⟨"search_ab_configuration_applies_total", "counter", "Total number of configuration applies",
        ["config", "outcome"], "search_ab_configuration_applies_total"⟩ m.applies ++
    familyLines
      ⟨"search_ab_query_rewrites_total", "counter", "Total number of query rewrites applied",
        ["config", "rule"], "search_ab_query_rewrites_total"⟩ m.firings ++
    familyLines
      ⟨"search_ab_search_duration_seconds", "histogram", "Search engine round-trip in seconds",
        ["config"], "search_ab_search_duration_seconds_count"⟩ m.timings ++
    familyLines
      ⟨"search_ab_search_requests_total", "counter", "Total number of search requests",
        ["config", "outcome"], "search_ab_search_requests_total"⟩ m.searches

def toText (m : Metrics) : String := String.join (m.lines.map (· ++ "\n"))

end Metrics

end VariantSearch
