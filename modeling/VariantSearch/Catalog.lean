import VariantSearch.Expansion
import VariantSearch.Variant

namespace VariantSearch.Catalog

structure Entry where
  variant : Variant
  chain : Chain

def filterable : List String :=
  ["id", "collection", "auto_line_hub", "property_line_hub", "liability_line_hub",
    "lms_collection", "lms_type", "lms_topic", "lms_lavel", "state", "legal_hub", "general_hub",
    "post_type", "adjuster_ce", "news_section", "published_on", "accessible_membership_plans",
    "accessible_roles", "course_prerequisite_enabled", "course_prerequisite", "course_final_quiz"]

def sortable : List String :=
  ["course_length", "lms_length", "modified_on", "published_on", "title", "subject", "weight"]

def searchable : List String :=
  ["title", "author", "excerpt", "content", "subject", "brief", "headline"]

def acronyms : List (String × String) :=
  [("UM", "uninsured motorist"),
    ("UIM", "underinsured motorist"),
    ("ACV", "actual cash value"),
    ("ALE", "additional living expense"),
    ("ACC", "anti-concurrent causation"),
    ("BI", "business income"),
    ("FRV", "fair rental value"),
    ("AOB", "assignment of benefits"),
    ("EUO", "examination under oath"),
    ("BPP", "business personal property"),
    ("PIP", "personal injury protection")]

def stopWords : List String :=
  ["a", "able", "all", "also", "am", "an", "and", "any", "are", "as", "at", "be", "because",
    "been", "but", "by", "can", "cannot", "could", "dear", "did", "do", "does", "else", "ever",
    "every", "for", "from", "get", "got", "had", "has", "have", "he", "her", "hers", "him", "how",
    "however", "i", "if", "in", "into", "is", "it", "its", "just", "let", "likely", "may", "me",
    "might", "must", "my", "no", "nor", "of", "often", "on", "only", "or", "other", "our", "own",
    "rather", "said", "say", "says", "she", "should", "since", "so", "some", "than", "that",
    "the", "their", "them", "then", "there", "these", "they", "this", "tis", "to", "too", "twas",
    "that'll", "that's", "there's", "they'd", "they'll", "they're", "us", "want", "wants", "was",
    "we", "what", "when", "where", "which", "who", "whom", "why", "will", "with", "would",
    "wasn't", "we'd", "we'll", "we're", "weren't", "what'd", "what's", "when'd", "when'll",
    "when's", "where'd", "where'll", "where's", "who'd", "who'll", "who's", "why'd", "why'll",
    "why's", "won't", "would've", "wouldn't"]

def extraSynonyms : List (String × List String) :=
  [("policy cancellation", ["non-renewal", "cancellation"]),
    ("non-renewal", ["policy cancellation", "cancellation"]),
    ("insurance claim", ["claim", "claim process"]),
    ("claim", ["insurance claim", "claim process"]),
    ("coverage", ["insurance coverage"])]

def acronymSynonyms : TextMap TextSet :=
  .ofList (acronyms.flatMap fun (short, long) => [(short, .ofList [long]), (long, .ofList [short])])

def baseline : Settings where
  filterable := .ofList filterable
  sortable := .ofList sortable
  searchable := searchable
  synonyms := acronymSynonyms
  stopWords := .ofList stopWords
  typos := ⟨true, 4, 10, .ofList ["title"]⟩
  ranking :=
    [.builtin .exactness, .builtin .proximity, .builtin .attributeRank, .builtin .words,
      .builtin .typo, .byAttribute "weight" .descending, .builtin .sort]
  maxTotalHits := 80000
  maxFacetValues := 500
  facetOrders := .ofList [("*", .alphabetic)]

def indexUid (stem name : String) : String := stem ++ "_" ++ name

def first (stem primaryKey : String) : Variant := ⟨"v1", indexUid stem "v1", primaryKey, baseline⟩

def second (stem primaryKey : String) : Variant :=
  let base := first stem primaryKey
  ((base.derive "v2" (indexUid stem "v2")).addSynonyms extraSynonyms).withSearchable
    ("headline" :: base.settings.searchable.filter (· ≠ "headline"))

def wildfire : Expansion where
  name := "wildfire-expansion"
  trigger := "wildfire".toList
  expansion := "fire"
  mode := .substring
  trigger_ne := by decide
  expansion_ne := by decide
  edges := nofun

def entries (stem primaryKey : String) : List Entry :=
  [⟨first stem primaryKey, []⟩, ⟨second stem primaryKey, [wildfire]⟩]

end VariantSearch.Catalog
