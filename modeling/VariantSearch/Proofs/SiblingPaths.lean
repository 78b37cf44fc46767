import VariantSearch.Proofs.ClientSearch
import VariantSearch.Proofs.IndexAddress

namespace VariantSearch

namespace Web.Url

open Text Percent

variable {cs rest name more : List Char}

def IsWebScheme (scheme : List Char) : Prop :=
  isScheme scheme = true ∧
    (scheme.map Char.toLower = "http".toList ∨ scheme.map Char.toLower = "https".toList)

/-- The host and the number behind it, with a name and a password before them. -/
def authorityOf (cs : List Char) : List Char :=
  (cs.dropWhile isSlash).takeWhile fun c => !endsAuthority c

def NamesHost (authority : List Char) : Prop := ∃ u, afterScheme false authority = .ok u

def IsAddress (cs : List Char) : Prop := ∃ u, parse (String.ofList cs) = .ok u

theorem authorityOf_of_inside (h : ∀ c ∈ name, endsAuthority c = false) :
    authorityOf name = name := by
  have hdrop : name.dropWhile isSlash = name := by
    cases name with
    | nil => rfl
    | cons c name =>
      have hslash : isSlash c = false := by
        have hends := h c List.mem_cons_self
        simp only [endsAuthority, Bool.or_eq_false_iff] at hends
        exact hends.1.1
      rw [List.dropWhile_cons_of_neg (by simp [hslash])]
  rw [authorityOf, hdrop, List.takeWhile_eq_self_iff]
  intro c hc
  rw [h c hc]
  rfl

theorem mem_authorityOf {c : Char} (h : c ∈ authorityOf cs) : endsAuthority c = false := by
  have hinside := List.mem_takeWhile_imp h
  rwa [Bool.not_eq_true'] at hinside

/-- Whether the text behind a scheme can be read is decided by its authority. -/
theorem exists_afterScheme_iff (secure : Bool) (cs : List Char) :
    (∃ u, afterScheme secure cs = .ok u) ↔ NamesHost (authorityOf cs) := by
  have hself : authorityOf (authorityOf cs) = authorityOf cs :=
    authorityOf_of_inside fun c hc => mem_authorityOf hc
  unfold authorityOf at hself
  simp only [endsAuthority] at hself
  simp only [NamesHost, authorityOf, endsAuthority, afterScheme, hself]
  -- The host and its number come from the authority, which is the same on both sides.
  repeat' split
  all_goals simp_all

/-- A text is an address just if it has a scheme in front of an authority that can be read. -/
theorem isAddress_iff :
    IsAddress cs ↔ ∃ scheme rest, clean cs = scheme ++ ':' :: rest ∧ ':' ∉ scheme ∧
      IsWebScheme scheme ∧ NamesHost (authorityOf rest) := by
  rw [IsAddress, parse, String.toList_ofList]
  constructor
  · rintro ⟨u, hu⟩
    split at hu
    · cases hu
    · next scheme rest hcut =>
      obtain ⟨hclean, hscheme⟩ := cutFirst?_eq_some hcut
      refine ⟨scheme, rest, hclean, hscheme, ?_⟩
      split at hu
      · cases hu
      · next hname =>
        rw [Bool.not_eq_true', Bool.not_eq_false] at hname
        split at hu
        · next hhttp => exact ⟨⟨hname, Or.inl hhttp⟩, (exists_afterScheme_iff _ _).1 ⟨u, hu⟩⟩
        · split at hu
          · next hhttps =>
            exact ⟨⟨hname, Or.inr hhttps⟩, (exists_afterScheme_iff _ _).1 ⟨u, hu⟩⟩
          · cases hu
  · rintro ⟨scheme, rest, hclean, hscheme, ⟨hname, hweb⟩, hhost⟩
    rw [hclean, cutFirst?_append hscheme]
    dsimp only
    rw [hname]
    -- The two schemes are looked for one after the other.
    have hne : "https".toList ≠ "http".toList := by decide
    rcases hweb with hhttp | hhttps
    · obtain ⟨u, hu⟩ := (exists_afterScheme_iff false rest).2 hhost
      exact ⟨u, by rw [if_neg (by decide), if_pos hhttp, hu]⟩
    · obtain ⟨u, hu⟩ := (exists_afterScheme_iff true rest).2 hhost
      exact ⟨u, by rw [if_neg (by decide), hhttps, if_neg hne, if_pos rfl, hu]⟩

def lead (base : List Char) : List Char := unbroken (base.dropWhile isControlOrSpace)

/-- A slash parts an address that is cleaned. -/
theorem clean_append_slash (base path : List Char) :
    clean (base ++ '/' :: path) =
      lead base ++ '/' :: unbroken (path.reverse.dropWhile isControlOrSpace).reverse := by
  have hslash : ¬ isControlOrSpace '/' = true := by decide
  -- What is dropped at the start and at the end stops at the slash.
  have hstart : (base ++ '/' :: path).dropWhile isControlOrSpace =
      base.dropWhile isControlOrSpace ++ '/' :: path := by
    rw [List.dropWhile_append, List.dropWhile_cons_of_neg hslash]
    split
    · next hnone => rw [List.isEmpty_iff.1 hnone, List.nil_append]
    · rfl
  have hend (front : List Char) :
      ((front ++ '/' :: path).reverse.dropWhile isControlOrSpace).reverse =
        front ++ '/' :: (path.reverse.dropWhile isControlOrSpace).reverse := by
    rw [List.reverse_append, List.reverse_cons, List.append_assoc, List.dropWhile_append,
      List.singleton_append, List.dropWhile_cons_of_neg hslash]
    split
    · next hnone => rw [List.isEmpty_iff.1 hnone]; simp
    · simp
  change unbroken (((base ++ '/' :: path).dropWhile isControlOrSpace).reverse.dropWhile
    isControlOrSpace).reverse = _
  rw [hstart, hend, unbroken_append]
  rfl

/-- A path starts behind the host, unless there is none before it. -/
theorem authorityOf_append_slash (rest path : List Char) :
    authorityOf (rest ++ '/' :: path) =
      if rest.all isSlash then authorityOf path else authorityOf rest := by
  have hslash : isSlash '/' = true := by decide
  have hstop : ('/' :: path).takeWhile (fun c => !endsAuthority c) = [] := rfl
  unfold authorityOf
  rw [List.dropWhile_append, List.dropWhile_cons_of_pos hslash]
  by_cases hall : rest.all isSlash = true
  · have hnone : rest.dropWhile isSlash = [] := List.dropWhile_eq_nil_iff.2 (List.all_eq_true.1 hall)
    rw [if_pos hall, hnone]
    rfl
  · have hsome : ¬ (rest.dropWhile isSlash).isEmpty = true := by
      rw [List.isEmpty_iff, List.dropWhile_eq_nil_iff]
      exact fun h => hall (List.all_eq_true.2 h)
    rw [if_neg hall, if_neg hsome, List.takeWhile_append, hstop]
    split
    · next hwhole => rw [List.append_nil, (List.takeWhile_prefix _).eq_of_length hwhole]
    · rfl

/-- A scheme that stands in front of an address ends before the first slash. -/
theorem exists_lead_eq {before path scheme rest : List Char} (hscheme : '/' ∉ scheme)
    (h : before ++ '/' :: path = scheme ++ ':' :: rest) :
    ∃ last, before = scheme ++ ':' :: last ∧ rest = last ++ '/' :: path := by
  rcases List.append_eq_append_iff.1 h with ⟨inside, rfl, hpath⟩ | ⟨last, rfl, hrest⟩
  · cases inside with
    | nil => exact absurd (List.cons.inj hpath).1 (by decide)
    | cons c inside =>
      obtain ⟨rfl, -⟩ := List.cons.inj hpath
      exact absurd (List.mem_append_right before List.mem_cons_self) hscheme
  · cases last with
    | nil => exact absurd (List.cons.inj hrest).1 (by decide)
    | cons c last =>
      obtain ⟨rfl, rfl⟩ := List.cons.inj hrest
      exact ⟨last, rfl, rfl⟩

theorem slash_not_mem_of_isScheme {scheme : List Char} (h : isScheme scheme = true) :
    '/' ∉ scheme := by
  have hslash : ('/'.isAlphanum || '/' == '+' || '/' == '-' || '/' == '.') = false := by decide
  cases scheme with
  | nil => exact List.not_mem_nil
  | cons c scheme =>
    obtain ⟨hfirst, hmore⟩ := Bool.and_eq_true_iff.1 h
    intro hmem
    rcases List.mem_cons.1 hmem with rfl | hmem
    · exact absurd hfirst (by decide)
    · have hchar := List.all_eq_true.1 hmore '/' hmem
      rw [hslash] at hchar
      cases hchar

/-- With the same base, one path makes an address if another one does, provided that the first
segment of the one can be the name of a host. -/
theorem isAddress_sibling {base path : List Char} (h : IsAddress (base ++ '/' :: path))
    (hvisible : ∀ c ∈ name ++ more, isControlOrSpace c = false) (hne : name ≠ [])
    (hname : ∀ c ∈ name, endsAuthority c = false) (hhost : NamesHost name)
    (hmore : more = [] ∨ more.head? = some '/') : IsAddress (base ++ '/' :: (name ++ more)) := by
  obtain ⟨scheme, rest, hclean, hcolon, hweb, hauthority⟩ := isAddress_iff.1 h
  rw [clean_append_slash] at hclean
  obtain ⟨last, hlead, rfl⟩ := exists_lead_eq (slash_not_mem_of_isScheme hweb.1) hclean
  rw [authorityOf_append_slash] at hauthority
  refine isAddress_iff.2 ⟨scheme, last ++ '/' :: (name ++ more), ?_, hcolon, hweb, ?_⟩
  · -- Nothing of the path is dropped, and the scheme stands in the part that the two have in common.
    have halone : clean ([] ++ '/' :: (name ++ more)) = '/' :: (name ++ more) :=
      clean_of_visible (List.forall_mem_cons.2 ⟨by decide, hvisible⟩)
    rw [clean_append_slash] at halone
    rw [clean_append_slash, (List.cons.inj halone).2, hlead, List.append_assoc]
    rfl
  · rw [authorityOf_append_slash]
    by_cases hall : last.all isSlash = true
    · -- Without a host before the path, its first segment is taken for one.
      rw [if_pos hall]
      have hfirst : authorityOf (name ++ more) = name := by
        have hstart : ([] ++ (name ++ more)).dropWhile isSlash = name ++ more :=
          dropWhile_slashes (List.forall_mem_nil _) hne hname more
        rw [authorityOf, ← List.nil_append (name ++ more), hstart]
        rcases hmore with rfl | hmore
        · rw [List.append_nil, List.takeWhile_eq_self_iff]
          intro c hc
          rw [hname c hc]
          rfl
        · exact (span_authority hname hmore).1
      rwa [hfirst]
    · rw [if_neg hall] at hauthority ⊢
      exact hauthority

/-- Over a base that names a host only, a path of segments is asked for with nothing but escapes. -/
theorem target_joined {base : List Char} {texts : List (List Char)} {last : Char} {u : Url}
    (hbase : IsBare base) (hne : texts ≠ []) (htexts : ∀ text ∈ texts, IsSegment text)
    (hlast : (joined '/' texts).getLast? = some last) (hvisible : isControlOrSpace last = false)
    (h : parse (String.ofList (base ++ '/' :: joined '/' texts)) = .ok u) :
    u.target = '/' :: joined '/' (texts.map (encode keepInPath)) := by
  have hend : ('/' :: joined '/' texts).getLast? = some last := by
    rw [List.getLast?_cons, hlast]
    rfl
  have hunbroken : unbroken ('/' :: joined '/' texts) = '/' :: joined '/' texts := by
    refine List.filter_eq_self.2 (List.forall_mem_cons.2 ⟨rfl, fun c hc => ?_⟩)
    have htab : c ≠ '\t' := fun heq => not_mem_joined htexts (by decide) (heq ▸ hc)
    have hline : c ≠ '\n' := fun heq => not_mem_joined htexts (by decide) (heq ▸ hc)
    have hreturn : c ≠ '\r' := fun heq => not_mem_joined htexts (by decide) (heq ▸ hc)
    simp [htab, hline, hreturn]
  have hparts : (u.path, u.query) =
      ('/' :: joined '/' (texts.map (encode keepInPath)), none) := by
    rw [parse_append_eq_ok hbase rfl hend hvisible h, hunbroken, tailOf_joined hne htexts]
  obtain ⟨hpath, hquery⟩ := Prod.mk.inj hparts
  rw [target, hquery, hpath]

end Web.Url

namespace Remote

open Web.Url

variable {c : RemoteConfig} {method path : String} {pairs : List (String × String)}
  {body : Option Json} {sent : Web.Request}

def HasCredentials (c : RemoteConfig) : Prop := (c.apiKey.map ("Bearer " ++ ·)).all fitsHeader = true

theorem addressOf_eq (c : RemoteConfig) (path : String) :
    addressOf c.baseUrl path = String.ofList (base c ++ path.toList) := by
  apply String.toList_inj.1
  rw [addressOf, base, String.toList_append, String.toList_ofList, String.toList_ofList]

/-- A request can be made just if its address can be read and the credentials can be sent. -/
theorem request?_eq_some_iff :
    request? c method path pairs body = some sent ↔
      ∃ u, parse (String.ofList (base c ++ path.toList)) = .ok u ∧ HasCredentials c ∧
        sent = ⟨method, String.ofList (u.withPairs pairs).target, c.apiKey.map ("Bearer " ++ ·),
          userAgent, body⟩ := by
  rw [request?, addressOf_eq, HasCredentials]
  cases parse (String.ofList (base c ++ path.toList)) with
  | error fault => simp
  | ok u =>
    dsimp only
    split
    · next h => simp [h, eq_comm]
    · next h => simp [h]

theorem fields_of_request? (h : request? c method path pairs body = some sent) :
    sent.method = method ∧ sent.body = body := by
  obtain ⟨u, -, -, rfl⟩ := request?_eq_some_iff.1 h
  exact ⟨rfl, rfl⟩

/-- Over a base that names a host only, a path of segments is the target, with escapes in it. -/
theorem target_of_request? {texts : List (List Char)} {last : Char}
    (h : request? c method path [] body = some sent) (hbase : IsBare (base c))
    (hpath : path.toList = '/' :: Text.joined '/' texts) (hne : texts ≠ [])
    (htexts : ∀ text ∈ texts, IsSegment text) (hlast : (Text.joined '/' texts).getLast? = some last)
    (hvisible : isControlOrSpace last = false) :
    sent.target =
      String.ofList ('/' :: Text.joined '/' (texts.map (Web.Percent.encode keepInPath))) := by
  obtain ⟨u, hu, -, rfl⟩ := request?_eq_some_iff.1 h
  rw [hpath] at hu
  rw [← target_joined hbase hne htexts hlast hvisible hu]
  rfl

section Names

variable {names : List String}

def pathOfNames (names : List String) : List Char := Text.joined '/' (names.map String.toList)

theorem visible_of_mem_pathOfNames (hnames : ∀ name ∈ names, IsSafe name) :
    ∀ c ∈ pathOfNames names, isControlOrSpace c = false := by
  intro c hc
  rcases mem_joined hc with rfl | ⟨text, htext, hc⟩
  · decide
  · obtain ⟨name, hname, rfl⟩ := List.mem_map.1 htext
    exact isControlOrSpace_of_isUnreserved ((hnames name hname).unreserved c hc)

theorem endsAuthority_of_isSafe {name : String} (h : IsSafe name) :
    ∀ c ∈ name.toList, endsAuthority c = false := by
  intro c hc
  have hout := h.isSegment.chars c hc
  cases hends : endsAuthority c with
  | false => rfl
  | true =>
    simp only [endsAuthority, isSlash, Bool.or_eq_true, beq_iff_eq] at hends
    rcases hends with ((rfl | rfl) | rfl) | rfl <;> exact absurd (by decide) hout

theorem toList_ne_nil_of_isSafe {name : String} (h : IsSafe name) : name.toList ≠ [] := fun heq =>
  h.ne (String.toList_eq_nil_iff.1 heq)

/-- A path of names starts with the first one, and a slash comes behind it if there are more. -/
theorem pathOfNames_cons (first : String) (more : List String) :
    ∃ rest, pathOfNames (first :: more) = first.toList ++ rest ∧
      (rest = [] ∨ rest.head? = some '/') := by
  cases more with
  | nil => exact ⟨[], (List.append_nil _).symm, Or.inl rfl⟩
  | cons next more => exact ⟨'/' :: pathOfNames (next :: more), rfl, Or.inr rfl⟩

/-- An engine that can make a request can make every one for a path of safe names of which the first
can be the name of a host. -/
theorem exists_request?_sibling {first : String} {more : List String}
    (h : request? c method path pairs body = some sent) (hpath : path.toList.head? = some '/')
    (hnames : ∀ name ∈ first :: more, IsSafe name) (hhost : NamesHost first.toList) {path' : String}
    (hpath' : path'.toList = '/' :: pathOfNames (first :: more)) (method' : String)
    (body' : Option Json) : ∃ sent', request? c method' path' [] body' = some sent' := by
  obtain ⟨u, hu, hcredentials, -⟩ := request?_eq_some_iff.1 h
  obtain ⟨rest, hrest⟩ := List.head?_eq_some_iff.1 hpath
  obtain ⟨behind, hbehind, hslash⟩ := pathOfNames_cons first more
  have hfirst : IsSafe first := hnames first List.mem_cons_self
  have hvisible := visible_of_mem_pathOfNames hnames
  rw [hrest] at hu
  rw [hbehind] at hvisible hpath'
  obtain ⟨u', hu'⟩ := isAddress_sibling ⟨u, hu⟩ hvisible (toList_ne_nil_of_isSafe hfirst)
    (endsAuthority_of_isSafe hfirst) hhost hslash
  rw [← hpath'] at hu'
  exact ⟨_, request?_eq_some_iff.2 ⟨u', hu', hcredentials, rfl⟩⟩

/-- Over a base that names a host only, a path of safe names is the target. -/
theorem target_of_isSafe (h : request? c method path [] body = some sent) (hbase : IsBare (base c))
    (hne : names ≠ []) (hnames : ∀ name ∈ names, IsSafe name)
    (hpath : path.toList = '/' :: pathOfNames names) : sent.target = path := by
  have hsegments : ∀ text ∈ names.map String.toList, IsSegment text := by
    intro text htext
    obtain ⟨name, hname, rfl⟩ := List.mem_map.1 htext
    exact (hnames name hname).isSegment
  have hescaped : (names.map String.toList).map (Web.Percent.encode keepInPath) =
      names.map String.toList := by
    refine (List.map_congr_left fun text htext => ?_).trans (List.map_id _)
    obtain ⟨name, hname, rfl⟩ := List.mem_map.1 htext
    exact Web.Percent.encode_of_kept fun c hc =>
      keepInPath_of_isUnreserved ((hnames name hname).unreserved c hc)
  have hsome : pathOfNames names ≠ [] := by
    obtain ⟨first, more, rfl⟩ := List.exists_cons_of_ne_nil hne
    obtain ⟨behind, hbehind, -⟩ := pathOfNames_cons first more
    rw [hbehind]
    exact List.append_ne_nil_of_left_ne_nil
      (toList_ne_nil_of_isSafe (hnames first List.mem_cons_self)) behind
  -- No name is empty, so the path ends in a character that is not dropped.
  have hlast := visible_of_mem_pathOfNames hnames _ (List.getLast_mem hsome)
  have htarget := target_of_request? h hbase hpath (by simpa using hne) hsegments
    (List.getLast?_eq_some_getLast hsome) hlast
  rw [hescaped] at htarget
  apply String.toList_inj.1
  rw [htarget, String.toList_ofList, hpath, pathOfNames]

end Names

theorem isSafe_tasks : IsSafe "tasks" :=
  ⟨by decide, List.all_eq_true.1 (by decide), by decide, by decide⟩

theorem isSafe_indexes : IsSafe "indexes" :=
  ⟨by decide, List.all_eq_true.1 (by decide), by decide, by decide⟩

theorem namesHost_tasks : NamesHost "tasks".toList := ⟨_, rfl⟩

theorem namesHost_indexes : NamesHost "indexes".toList := ⟨_, rfl⟩

structure AsksForTask (c : RemoteConfig) (task : Nat) (sent : Web.Request) : Prop where
  made : request? c "GET" ("/tasks/" ++ toString task) [] none = some sent
  method : sent.method = "GET"
  body : sent.body = none
  target : IsBare (base c) → sent.target = "/tasks/" ++ toString task

/-- The request by which an index is looked up. Its name is put into the path as it is; where that
is a segment that does not end in a blank, the target says this name and no other. -/
structure LooksUp (c : RemoteConfig) (indexUid : String) (sent : Web.Request) : Prop where
  made : request? c "GET" ("/indexes/" ++ indexUid) [] none = some sent
  method : sent.method = "GET"
  body : sent.body = none
  target : IsBare (base c) → IsSegment indexUid.toList →
    (∀ last ∈ indexUid.toList.getLast?, isControlOrSpace last = false) →
      sent.target = "/indexes/" ++ String.ofList (Web.Percent.encode keepInPath indexUid.toList)

structure AsksToCreate (c : RemoteConfig) (indexUid primaryKey : String)
    (sent : Web.Request) : Prop where
  made : request? c "POST" "/indexes" []
    (some (.ofMembers [("uid", .text indexUid), ("primaryKey", .text primaryKey)])) = some sent
  method : sent.method = "POST"
  body : sent.body = some (.ofMembers [("uid", .text indexUid), ("primaryKey", .text primaryKey)])
  target : IsBare (base c) → sent.target = "/indexes"

theorem isDigit_of_mem_toString {n : Nat} {c : Char} (h : c ∈ (toString n).toList) :
    c.isDigit = true := by
  have hdigits : (toString n).toList = Nat.toDigits 10 n := by simp
  rw [hdigits] at h
  exact Nat.isDigit_of_mem_toDigits (by decide) (by decide) h

/-- A text with a character that is no digit is no number. -/
theorem toString_ne {s : String} {c : Char} (hmem : c ∈ s.toList) (hc : c.isDigit = false) (n : Nat) :
    toString n ≠ s := by
  rintro rfl
  rw [isDigit_of_mem_toString hmem] at hc
  cases hc

/-- A number is written with characters that an address may hold as they are. -/
theorem isSafe_toString (n : Nat) : IsSafe (toString n) := by
  have hdot (s : String) (h : '.' ∈ s.toList) : toString n ≠ s := toString_ne h (by decide) n
  refine ⟨?_, ?_, hdot "." (by decide), hdot ".." (by decide)⟩
  · intro hempty
    have hdigits : (toString n).toList = Nat.toDigits 10 n := by simp
    rw [hempty] at hdigits
    exact Nat.toDigits_ne_nil hdigits.symm
  · intro c hc
    have hdigit := isDigit_of_mem_toString hc
    simp only [Web.Target.isUnreserved, Char.isAlphanum, hdigit, Bool.or_true, Bool.true_or]

theorem exists_asksForTask (h : request? c method path pairs body = some sent)
    (hpath : path.toList.head? = some '/') (task : Nat) : ∃ poll, AsksForTask c task poll := by
  have hpath' : ("/tasks/" ++ toString task).toList = '/' :: pathOfNames ["tasks", toString task] := by
    rw [String.toList_append]
    rfl
  have hnames : ∀ name ∈ ["tasks", toString task], IsSafe name := by
    simp only [List.mem_cons, List.not_mem_nil, or_false]
    rintro name (rfl | rfl)
    · exact isSafe_tasks
    · exact isSafe_toString task
  obtain ⟨poll, hpoll⟩ := exists_request?_sibling h hpath hnames namesHost_tasks hpath' "GET" none
  obtain ⟨hmethod, hbody⟩ := fields_of_request? hpoll
  refine ⟨poll, hpoll, hmethod, hbody, fun hbase => ?_⟩
  exact target_of_isSafe hpoll hbase (List.cons_ne_nil _ _) hnames hpath'

theorem exists_asksToCreate (h : request? c method path pairs body = some sent)
    (hpath : path.toList.head? = some '/') (indexUid primaryKey : String) :
    ∃ create, AsksToCreate c indexUid primaryKey create := by
  have hnames : ∀ name ∈ ["indexes"], IsSafe name := by
    simp only [List.mem_cons, List.not_mem_nil, or_false]
    rintro name rfl
    exact isSafe_indexes
  have hpath' : "/indexes".toList = '/' :: pathOfNames ["indexes"] := rfl
  obtain ⟨create, hcreate⟩ := exists_request?_sibling h hpath hnames namesHost_indexes hpath' "POST"
    (some (.ofMembers [("uid", .text indexUid), ("primaryKey", .text primaryKey)]))
  obtain ⟨hmethod, hbody⟩ := fields_of_request? hcreate
  refine ⟨create, hcreate, hmethod, hbody, fun hbase => ?_⟩
  exact target_of_isSafe hcreate hbase (List.cons_ne_nil _ _) hnames rfl

theorem looksUp_of_request? {indexUid : String}
    (h : request? c "GET" ("/indexes/" ++ indexUid) [] none = some sent) :
    LooksUp c indexUid sent := by
  obtain ⟨hmethod, hbody⟩ := fields_of_request? h
  refine ⟨h, hmethod, hbody, fun hbase hname hend => ?_⟩
  have hpath : ("/indexes/" ++ indexUid).toList =
      '/' :: Text.joined '/' ["indexes".toList, indexUid.toList] := by
    rw [String.toList_append]
    rfl
  have hsegments : ∀ text ∈ ["indexes".toList, indexUid.toList], IsSegment text := by
    simp only [List.mem_cons, List.not_mem_nil, or_false]
    rintro text (rfl | rfl)
    · exact isSegment_indexes
    · exact hname
  -- A name that is empty leaves the slash at the end.
  have hlast : ∃ last, (Text.joined '/' ["indexes".toList, indexUid.toList]).getLast? = some last ∧
      isControlOrSpace last = false := by
    have hjoined : Text.joined '/' ["indexes".toList, indexUid.toList] =
        "indexes".toList ++ ['/'] ++ indexUid.toList := rfl
    rw [hjoined, List.getLast?_append]
    cases hchar : indexUid.toList.getLast? with
    | none => exact ⟨'/', rfl, by decide⟩
    | some last => exact ⟨last, rfl, hend last hchar⟩
  obtain ⟨last, hlast, hvisible⟩ := hlast
  have hescaped : Web.Percent.encode keepInPath "indexes".toList = "indexes".toList := by decide
  rw [target_of_request? h hbase hpath (List.cons_ne_nil _ _) hsegments hlast hvisible, List.map_cons,
    List.map_cons, List.map_nil, hescaped]
  apply String.toList_inj.1
  rw [String.toList_append, @String.toList_ofList ('/' :: _),
    @String.toList_ofList (Web.Percent.encode _ _)]
  rfl

end Remote

end VariantSearch
