import VariantSearch.Proofs.EncodedText
import VariantSearch.Proofs.JsonTokens
import VariantSearch.Proofs.TextMap

namespace VariantSearch

namespace Json

/-- The values that keep what they are in their text: integers of 64 bits, binary64 numbers that are
read back from their own text, members in ascending order, and at most so many lists and objects
inside each other. -/
inductive Plain : Nat → Json → Prop where
  | null {limit : Nat} : Plain limit null
  | bool {limit : Nat} (b : Bool) : Plain limit (bool b)
  | integer {limit : Nat} {n : Int} (h : Fits n) : Plain limit (integer n)
  | double {limit : Nat} {x : Binary64} (h : ofString? (double x).toText = some (double x)) :
    Plain limit (double x)
  | text {limit : Nat} (s : String) : Plain limit (text s)
  | list {limit : Nat} {items : List Json} (h : ∀ item ∈ items, Plain limit item) :
    Plain (limit + 1) (list items)
  | object {limit : Nat} {members : List (String × Json)}
    (hnames : members.Pairwise (fun a b => a.1 < b.1)) (h : ∀ e ∈ members, Plain limit e.2) :
    Plain (limit + 1) (object members)

/-- A tree that is read from the text of a value, whatever follows it, and stands for the value. -/
structure Reads (limit : Nat) (j : Json) (tree : SyntaxTree) : Prop where
  value?_eq : ∀ {bound : Nat} {rest : Input}, 2 * (compact j).length ≤ bound → Ends rest →
    value? bound ((compact j).map some ++ rest) = some (tree, rest)
  toJsonWithin?_eq : tree.toJsonWithin? limit = some j
  /-- The text does not start with a blank, and not like the end of a list. -/
  first : ∃ c more, compact j = c :: more ∧ isSpace (some c) = false ∧ c ≠ ']'

variable {limit bound : Nat} {rest : Input}

theorem ends_comma (rest : Input) : Ends (some ',' :: rest) := Or.inl rfl

theorem ends_bracket (rest : Input) : Ends (some ']' :: rest) := Or.inr (Or.inl rfl)

theorem ends_brace (rest : Input) : Ends (some '}' :: rest) := Or.inr (Or.inr rfl)

theorem skipSpace_cons {c : Char} (h : isSpace (some c) = false) (rest : Input) :
    skipSpace (some c :: rest) = some c :: rest := by
  rw [skipSpace, List.dropWhile_cons, h]
  rfl

theorem exists_bound {c : Char} {text more : List Char} (h : 2 * text.length ≤ bound)
    (htext : text = c :: more) : ∃ less, bound = less + 1 := by
  rw [htext, List.length_cons] at h
  exact ⟨bound - 1, by omega⟩

theorem reads_null : Reads limit null .null where
  value?_eq hbound _ := by
    obtain ⟨bound, rfl⟩ := exists_bound hbound rfl
    rfl
  toJsonWithin?_eq := by
    cases limit <;> rfl
  first := ⟨'n', _, rfl, rfl, by decide⟩

theorem reads_bool (b : Bool) : Reads limit (bool b) (.bool b) where
  value?_eq hbound _ := by
    cases b
    all_goals
      obtain ⟨bound, rfl⟩ := exists_bound hbound rfl
      rfl
  toJsonWithin?_eq := by
    cases limit <;> rfl
  first := by
    cases b
    · exact ⟨'f', _, rfl, rfl, by decide⟩
    · exact ⟨'t', _, rfl, rfl, by decide⟩

theorem reads_text (s : String) : Reads limit (text s) (.string (some s.toList)) where
  value?_eq {bound rest} hbound _ := by
    obtain ⟨bound, rfl⟩ := exists_bound hbound rfl
    change (string? ((s.toList.flatMap escapeChar ++ ['"']).map some ++ rest)).map _ = _
    rw [string?_quoted]
    rfl
  toJsonWithin?_eq := by
    cases limit <;> exact congrArg (some <| text ·) String.ofList_toList
  first := ⟨'"', _, rfl, rfl, by decide⟩

theorem isSpace_of_isDigit {c : Char} (hc : c.isDigit = true) : isSpace (some c) = false := by
  have hne {d : Char} (hd : d.isDigit = false) : c ≠ d := ne_of_test hc hd
  simp [isSpace, hne]

/-- A digit in front is taken for a number. -/
theorem value?_of_isDigit {c : Char} (hc : c.isDigit = true) (bound : Nat) (rest : Input) :
    value? (bound + 1) (some c :: rest) =
      (number? false (some c :: rest)).map fun (l, rest) => (.number l, rest) := by
  rw [value?, skipSpace_cons (isSpace_of_isDigit hc)]
  -- No other value starts with a digit.
  split
  case h_8 => rfl
  all_goals
    next heq =>
      exact absurd (Option.some.inj (List.cons.inj heq).1) (ne_of_test hc (by decide))

theorem exists_natDigits_cons (n : Nat) : ∃ c more, natDigits n = c :: more ∧ c.isDigit = true := by
  obtain ⟨c, more, hdigits⟩ := List.exists_cons_of_ne_nil (Nat.toDigits_ne_nil (n := n) (b := 10))
  have hc : c ∈ natDigits n := by
    rw [natDigits, hdigits]
    exact List.mem_cons_self
  exact ⟨c, more, hdigits, isDigit_of_mem_natDigits hc⟩

theorem reads_integer {n : Int} (h : Fits n) :
    Reads limit (integer n) (.number ⟨decide (n < 0), natDigits n.natAbs, [], none⟩) where
  value?_eq {bound rest} hbound hrest := by
    rw [compact, intDigits] at hbound ⊢
    obtain ⟨c, more, hdigits, hc⟩ := exists_natDigits_cons n.natAbs
    -- A minus and a digit lead to the same reader of numbers in different ways.
    by_cases hn : n < 0
    · rw [if_pos hn] at hbound ⊢
      obtain ⟨bound, rfl⟩ := exists_bound hbound rfl
      change (number? true ((natDigits n.natAbs).map some ++ rest)).map _ = _
      rw [number?_natDigits true n.natAbs hrest, decide_eq_true hn]
      rfl
    · rw [if_neg hn] at hbound ⊢
      obtain ⟨bound, rfl⟩ := exists_bound hbound hdigits
      have hnumber := number?_natDigits false n.natAbs hrest
      rw [hdigits, List.map_cons, List.cons_append] at hnumber
      rw [hdigits, List.map_cons, List.cons_append, value?_of_isDigit hc, hnumber,
        decide_eq_false hn]
      rfl
  toJsonWithin?_eq := by
    cases limit <;> exact toJson?_natDigits h
  first := by
    obtain ⟨c, more, hdigits, hc⟩ := exists_natDigits_cons n.natAbs
    rw [compact, intDigits]
    split
    · exact ⟨'-', _, rfl, rfl, by decide⟩
    · exact ⟨c, more, hdigits, isSpace_of_isDigit hc, ne_of_test hc (by decide)⟩

def magnitudeText (x : Binary64) : List Char :=
  if x.significand = 0 then ['0', '.', '0'] else layout x.shortest

theorem doubleText_eq (x : Binary64) :
    doubleText x = (if x.negative then ['-'] else []) ++ magnitudeText x := rfl

def isNumberChar (c : Char) : Bool := c.isDigit || c == '.' || c == 'e' || c == '-'

theorem isNumberChar_of_mem_natDigits {n : Nat} {c : Char} (h : c ∈ natDigits n) :
    isNumberChar c = true := by
  simp [isNumberChar, isDigit_of_mem_natDigits h]

theorem isNumberChar_of_mem_intDigits {n : Int} {c : Char} (h : c ∈ intDigits n) :
    isNumberChar c = true := by
  unfold intDigits at h
  split at h
  · rcases List.mem_cons.1 h with rfl | h
    · rfl
    · exact isNumberChar_of_mem_natDigits h
  · exact isNumberChar_of_mem_natDigits h

theorem isNumberChar_of_mem_layout {d : Binary64.Decimal} {c : Char} (h : c ∈ layout d) :
    isNumberChar c = true := by
  have hdigits : ∀ c ∈ natDigits d.digits, isNumberChar c = true :=
    fun c => isNumberChar_of_mem_natDigits
  have hmarks : isNumberChar '0' = true ∧ isNumberChar '.' = true ∧ isNumberChar 'e' = true :=
    ⟨rfl, rfl, rfl⟩
  unfold layout at h
  dsimp only at h
  repeat' split at h
  all_goals
    simp only [List.mem_append, List.mem_cons, List.mem_replicate, List.not_mem_nil, or_false] at h
    grind [List.mem_of_mem_take, List.mem_of_mem_drop, isNumberChar_of_mem_intDigits]

theorem exists_layout_cons (d : Binary64.Decimal) :
    ∃ c more, layout d = c :: more ∧ c.isDigit = true := by
  obtain ⟨c, more, hdigits, hc⟩ := exists_natDigits_cons d.digits
  unfold layout
  dsimp only
  rw [hdigits]
  split
  · exact ⟨c, _, rfl, hc⟩
  split
  · next hpoint =>
    obtain ⟨k, hk⟩ : ∃ k, ((((c :: more).length : Int) + d.exponent).toNat) = k + 1 :=
      ⟨_, (Nat.succ_pred (by omega)).symm⟩
    rw [hk]
    exact ⟨c, _, rfl, hc⟩
  split
  · exact ⟨'0', _, rfl, rfl⟩
  · exact ⟨c, _, rfl, hc⟩

/-- The text of a binary64 number behind its sign starts with a digit and holds no blanks. -/
theorem exists_magnitudeText (x : Binary64) :
    ∃ c more, magnitudeText x = c :: more ∧ c.isDigit = true ∧
      ∀ d ∈ magnitudeText x, isSpace (some d) = false := by
  have hblank {d : Char} (hd : isNumberChar d = true) : isSpace (some d) = false := by
    have hne {e : Char} (he : isNumberChar e = false) : d ≠ e := ne_of_test hd he
    simp [isSpace, @hne ' ' rfl, @hne '\n' rfl, @hne '\t' rfl, @hne '\r' rfl]
  unfold magnitudeText
  split
  · have hzero : ['0', '.', '0'].all isNumberChar = true := rfl
    exact ⟨'0', _, rfl, rfl, fun d hd => hblank (List.all_eq_true.1 hzero d hd)⟩
  · obtain ⟨c, more, htext, hc⟩ := exists_layout_cons x.shortest
    exact ⟨c, more, htext, hc, fun d hd => hblank (isNumberChar_of_mem_layout hd)⟩

theorem skipSpace_eq_self {input : Input} (h : ∀ c ∈ input, isSpace c = false) :
    skipSpace input = input := by
  cases input with
  | nil => rfl
  | cons c input => rw [skipSpace, List.dropWhile_cons, h c List.mem_cons_self]; rfl

/-- A binary64 number is taken for a number, with the sign in front of it. -/
theorem value?_doubleText (x : Binary64) (bound : Nat) (rest : Input) :
    value? (bound + 1) ((doubleText x).map some ++ rest) =
      (number? x.negative ((magnitudeText x).map some ++ rest)).map fun (l, rest) =>
        (.number l, rest) := by
  obtain ⟨c, more, htext, hc, -⟩ := exists_magnitudeText x
  rw [doubleText_eq]
  cases x.negative with
  | true => rfl
  | false =>
    change value? (bound + 1) ((magnitudeText x).map some ++ rest) = _
    rw [htext]
    exact value?_of_isDigit hc bound _

theorem first_doubleText (x : Binary64) :
    ∃ c more, doubleText x = c :: more ∧ isSpace (some c) = false ∧ c ≠ ']' := by
  obtain ⟨c, more, htext, hc, -⟩ := exists_magnitudeText x
  rw [doubleText_eq, htext]
  cases x.negative with
  | true => exact ⟨'-', _, rfl, rfl, by decide⟩
  | false => exact ⟨c, more, rfl, isSpace_of_isDigit hc, ne_of_test hc (by decide)⟩

/-- If a binary64 number is read back from its own text, the text is one number literal. -/
theorem exists_literal {x : Binary64} (h : ofString? (double x).toText = some (double x)) :
    ∃ l, number? x.negative ((magnitudeText x).map some) = some (l, []) ∧
      l.toJson? = some (double x) := by
  obtain ⟨-, -, -, -, hblank⟩ := exists_magnitudeText x
  have hparse : SyntaxTree.ofString? (double x).toText =
      SyntaxTree.parse? ((doubleText x).map some ++ []) := by
    rw [SyntaxTree.ofString?, toText, String.toList_ofList, compact, List.append_nil]
  obtain ⟨tree, htree, hvalue⟩ := Option.bind_eq_some_iff.1 h
  rw [hparse, SyntaxTree.parse?, value?_doubleText, List.append_nil] at htree
  cases hnumber : number? x.negative ((magnitudeText x).map some) with
  | none =>
    rw [hnumber] at htree
    cases htree
  | some found =>
    obtain ⟨l, left⟩ := found
    rw [hnumber, Option.map_some] at htree
    dsimp only at htree
    split at htree
    · next hskip =>
      cases htree
      obtain ⟨hleft, -⟩ := isLocal_number? x.negative hnumber
      -- What the number leaves of its text is blank, and there are no blanks in the text.
      have hvisible : ∀ d ∈ left, isSpace d = false := by
        intro d hd
        obtain ⟨e, he, rfl⟩ := List.mem_map.1 (hleft.subset hd)
        exact hblank e he
      rw [skipSpace_eq_self hvisible] at hskip
      obtain rfl := List.isEmpty_iff.1 hskip
      exact ⟨l, rfl, hvalue⟩
    · cases htree

/-- A binary64 number that is read back from its own text is read back wherever it stands. -/
theorem exists_reads_double {x : Binary64} (h : ofString? (double x).toText = some (double x)) :
    ∃ tree, Reads limit (double x) tree := by
  obtain ⟨l, hnumber, hvalue⟩ := exists_literal h
  obtain ⟨-, hread⟩ := isLocal_number? x.negative hnumber
  refine ⟨.number l, ?_, ?_, first_doubleText x⟩
  · intro bound rest hbound hrest
    obtain ⟨c, more, hfirst, -⟩ := first_doubleText x
    obtain ⟨bound, rfl⟩ := exists_bound hbound hfirst
    rw [compact, value?_doubleText, hread hrest]
    rfl
  · cases limit <;> exact hvalue

/-- A list that does not end at once has items. -/
theorem value?_list {c : Char} (hspace : isSpace (some c) = false) (hc : c ≠ ']') (bound : Nat)
    (rest : Input) :
    value? (bound + 1) (some '[' :: some c :: rest) =
      (items? bound (some c :: rest)).map fun (items, rest) => (.list items, rest) := by
  have hopen := skipSpace_cons (show isSpace (some '[') = false from rfl) (some c :: rest)
  simp only [value?, hopen, skipSpace_cons hspace]
  split
  · next heq => exact absurd (Option.some.inj (List.cons.inj heq).1) hc
  · rfl

theorem Reads.first_items {item : Json} {tree : SyntaxTree} (h : Reads limit item tree)
    (more : List Json) :
    ∃ c text, compactItems (item :: more) = c :: text ∧ isSpace (some c) = false ∧ c ≠ ']' := by
  obtain ⟨c, text, htext, hc⟩ := h.first
  cases more with
  | nil => exact ⟨c, text, htext, hc⟩
  | cons next more =>
    have hitems : compactItems (item :: next :: more) =
        compact item ++ ',' :: compactItems (next :: more) := rfl
    exact ⟨c, text ++ ',' :: compactItems (next :: more), by rw [hitems, htext]; rfl, hc⟩

/-- The items of a list are read one after another. -/
theorem exists_items {item : Json} {more : List Json}
    (h : ∀ j ∈ item :: more, ∃ tree, Reads limit j tree) :
    ∃ trees, (∀ {bound : Nat} {rest : Input}, 2 * (compactItems (item :: more)).length + 1 ≤ bound →
        items? bound ((compactItems (item :: more)).map some ++ some ']' :: rest) =
          some (trees, rest)) ∧
      trees.mapM (SyntaxTree.toJsonWithin? limit) = some (item :: more) := by
  induction more generalizing item with
  | nil =>
    obtain ⟨tree, htree⟩ := h item List.mem_cons_self
    refine ⟨[tree], ?_, ?_⟩
    · intro bound rest hbound
      rw [compactItems] at hbound ⊢
      obtain ⟨bound, rfl⟩ : ∃ less, bound = less + 1 := ⟨bound - 1, by omega⟩
      have hitem : value? bound ((compact item).map some ++ some ']' :: rest) =
          some (tree, some ']' :: rest) := htree.value?_eq (by omega) (ends_bracket rest)
      rw [items?, hitem]
      rfl
    · rw [List.mapM_cons, htree.toJsonWithin?_eq]
      rfl
  | cons next more ih =>
    obtain ⟨tree, htree⟩ := h item List.mem_cons_self
    obtain ⟨trees, htrees, hvalues⟩ := ih fun j hj => h j (List.mem_cons_of_mem item hj)
    -- The comma ends the first item, and the items behind it are read with one step less.
    refine ⟨tree :: trees, ?_, ?_⟩
    · intro bound rest hbound
      have htext : compactItems (item :: next :: more) =
          compact item ++ ',' :: compactItems (next :: more) := rfl
      rw [htext, List.length_append, List.length_cons] at hbound
      obtain ⟨bound, rfl⟩ : ∃ less, bound = less + 1 := ⟨bound - 1, by omega⟩
      have hitem (rest : Input) : value? bound ((compact item).map some ++ some ',' :: rest) =
          some (tree, some ',' :: rest) := htree.value?_eq (by omega) (ends_comma rest)
      rw [htext, List.map_append, List.append_assoc, List.map_cons, List.cons_append, items?, hitem]
      change (items? bound _).map _ = _
      rw [htrees (by omega)]
      rfl
    · rw [List.mapM_cons, htree.toJsonWithin?_eq, hvalues]
      rfl

theorem exists_reads_list {items : List Json} (h : ∀ j ∈ items, ∃ tree, Reads limit j tree) :
    ∃ tree, Reads (limit + 1) (list items) tree := by
  -- The empty list is read without looking for an item.
  cases items with
  | nil =>
    refine ⟨.list [], ?_, rfl, '[', _, rfl, rfl, by decide⟩
    intro bound rest hbound _
    obtain ⟨bound, rfl⟩ := exists_bound hbound rfl
    rfl
  | cons item more =>
    obtain ⟨trees, htrees, hvalues⟩ := exists_items h
    refine ⟨.list trees, ?_, ?_, '[', _, rfl, rfl, by decide⟩
    · intro bound rest hbound _
      have htext : compact (list (item :: more)) = '[' :: (compactItems (item :: more) ++ [']']) := rfl
      rw [htext, List.length_cons, List.length_append, List.length_singleton] at hbound
      obtain ⟨bound, rfl⟩ : ∃ less, bound = less + 1 := ⟨bound - 1, by omega⟩
      obtain ⟨tree, htree⟩ := h item List.mem_cons_self
      obtain ⟨c, text, hfirst, hspace, hc⟩ := htree.first_items more
      have hitems : items? bound ((compactItems (item :: more)).map some ++ some ']' :: rest) =
          some (trees, rest) := htrees (by omega)
      rw [hfirst, List.map_cons, List.cons_append] at hitems
      rw [htext, hfirst, List.map_cons, List.map_append, List.cons_append, List.append_assoc,
        List.map_cons, List.cons_append]
      change value? (bound + 1) (some '[' :: some c :: (text.map some ++ some ']' :: rest)) = _
      rw [value?_list hspace hc, hitems]
      rfl
    · rw [SyntaxTree.toJsonWithin?, hvalues]
      rfl

/-- A member is read from its quoted name, a colon and its value. -/
theorem members?_cons {name : String} {value : Json} {tree : SyntaxTree} (h : Reads limit value tree)
    (hbound : 2 * (quoted name ++ ':' :: compact value).length ≤ bound) (hrest : Ends rest) :
    members? (bound + 1) ((quoted name ++ ':' :: compact value).map some ++ rest) =
      match skipSpace rest with
      | some '}' :: rest => some ([(some name.toList, tree)], rest)
      | some ',' :: rest =>
        (members? bound rest).map fun (more, rest) => ((some name.toList, tree) :: more, rest)
      | _ => none := by
  have htext : (quoted name ++ ':' :: compact value).map some ++ rest =
      some '"' :: ((name.toList.flatMap escapeChar ++ ['"']).map some ++
        some ':' :: ((compact value).map some ++ rest)) := by
    rw [List.map_append, List.append_assoc]
    rfl
  have hvalue : value? bound ((compact value).map some ++ rest) = some (tree, rest) := by
    rw [List.length_append, List.length_cons] at hbound
    exact h.value?_eq (by omega) hrest
  rw [htext]
  change (string? _).bind _ = _
  rw [string?_quoted, Option.bind_some]
  change (value? bound _).bind _ = _
  rw [hvalue]
  rfl

def memberOf? (limit : Nat) (member : Option (List Char) × SyntaxTree) : Option (String × Json) := do
  return (String.ofList (← member.1), ← member.2.toJsonWithin? limit)

theorem memberOf?_of_reads {name : String} {value : Json} {tree : SyntaxTree}
    (h : Reads limit value tree) : memberOf? limit (some name.toList, tree) = some (name, value) := by
  rw [memberOf?, h.toJsonWithin?_eq]
  exact congrArg (fun text => some (text, value)) String.ofList_toList

/-- The members of an object are read one after another. -/
theorem exists_members {member : String × Json} {more : List (String × Json)}
    (h : ∀ e ∈ member :: more, ∃ tree, Reads limit e.2 tree) :
    ∃ trees, (∀ {bound : Nat} {rest : Input},
        2 * (compactMembers (member :: more)).length + 1 ≤ bound →
          members? bound ((compactMembers (member :: more)).map some ++ some '}' :: rest) =
            some (trees, rest)) ∧
      trees.mapM (memberOf? limit) = some (member :: more) := by
  induction more generalizing member with
  | nil =>
    obtain ⟨tree, htree⟩ := h member List.mem_cons_self
    refine ⟨[(some member.1.toList, tree)], ?_, ?_⟩
    · intro bound rest hbound
      have htext : compactMembers [member] = quoted member.1 ++ ':' :: compact member.2 := rfl
      rw [htext] at hbound ⊢
      -- The bound is spent by two for each character, so it lasts for the members that follow.
      obtain ⟨bound, rfl⟩ : ∃ less, bound = less + 1 := ⟨bound - 1, by omega⟩
      have hmember : 2 * (quoted member.1 ++ ':' :: compact member.2).length ≤ bound := by omega
      rw [members?_cons htree hmember (ends_brace rest)]
      rfl
    · rw [List.mapM_cons, memberOf?_of_reads htree]
      rfl
  | cons next more ih =>
    obtain ⟨tree, htree⟩ := h member List.mem_cons_self
    obtain ⟨trees, htrees, hvalues⟩ := ih fun e he => h e (List.mem_cons_of_mem member he)
    refine ⟨(some member.1.toList, tree) :: trees, ?_, ?_⟩
    · intro bound rest hbound
      have htext : compactMembers (member :: next :: more) =
          (quoted member.1 ++ ':' :: compact member.2) ++ ',' :: compactMembers (next :: more) := by
        rw [List.append_assoc]
        rfl
      rw [htext, List.length_append, List.length_cons] at hbound
      obtain ⟨bound, rfl⟩ : ∃ less, bound = less + 1 := ⟨bound - 1, by omega⟩
      have hmember : 2 * (quoted member.1 ++ ':' :: compact member.2).length ≤ bound := by omega
      rw [htext, List.map_append, List.append_assoc, List.map_cons, List.cons_append,
        members?_cons htree hmember (ends_comma _)]
      change (members? bound _).map _ = _
      rw [htrees (by omega)]
      rfl
    · rw [List.mapM_cons, memberOf?_of_reads htree, hvalues]
      rfl

theorem exists_reads_object {members : List (String × Json)}
    (hnames : members.Pairwise (fun a b => a.1 < b.1))
    (h : ∀ e ∈ members, ∃ tree, Reads limit e.2 tree) :
    ∃ tree, Reads (limit + 1) (object members) tree := by
  cases members with
  | nil =>
    refine ⟨.object [], ?_, rfl, '{', _, rfl, rfl, by decide⟩
    intro bound rest hbound _
    obtain ⟨bound, rfl⟩ := exists_bound hbound rfl
    rfl
  | cons member more =>
    obtain ⟨trees, htrees, hvalues⟩ := exists_members h
    refine ⟨.object trees, ?_, ?_, '{', _, rfl, rfl, by decide⟩
    · intro bound rest hbound _
      have htext : compact (object (member :: more)) =
          '{' :: (compactMembers (member :: more) ++ ['}']) := rfl
      rw [htext, List.length_cons, List.length_append, List.length_singleton] at hbound
      obtain ⟨bound, rfl⟩ : ∃ less, bound = less + 1 := ⟨bound - 1, by omega⟩
      have hmembers : members? bound ((compactMembers (member :: more)).map some ++ some '}' :: rest) =
          some (trees, rest) := htrees (by omega)
      -- A name starts with a quote, so the object does not end at once.
      obtain ⟨text, hfirst⟩ : ∃ text, compactMembers (member :: more) = '"' :: text := by
        cases more with
        | nil => exact ⟨_, rfl⟩
        | cons next more => exact ⟨_, rfl⟩
      rw [hfirst, List.map_cons, List.cons_append] at hmembers
      rw [htext, hfirst, List.map_cons, List.map_append, List.cons_append, List.append_assoc]
      change (members? bound (some '"' :: (text.map some ++ some '}' :: rest))).map _ = _
      rw [hmembers]
      rfl
    · -- The members are in order, so collecting them by name gives the same object.
      have hlisted : ofMembers (member :: more) = object (member :: more) :=
        congrArg object (TextMap.entries_ofList hnames)
      rw [← hlisted]
      change (trees.mapM (memberOf? limit)).bind _ = _
      rw [hvalues]
      rfl

theorem exists_reads {j : Json} (h : Plain limit j) : ∃ tree, Reads limit j tree := by
  induction h with
  | null => exact ⟨_, reads_null⟩
  | bool b => exact ⟨_, reads_bool b⟩
  | integer hn => exact ⟨_, reads_integer hn⟩
  | double hx => exact exists_reads_double hx
  | text s => exact ⟨_, reads_text s⟩
  | list _ ih => exact exists_reads_list ih
  | object hnames _ ih => exact exists_reads_object hnames ih

theorem toJson?_parse? {j : Json} (h : Plain nestingLimit j) :
    (SyntaxTree.parse? ((compact j).map some)).bind SyntaxTree.toJson? = some j := by
  obtain ⟨tree, htree⟩ := exists_reads h
  -- The bound that the reader takes from the length of the input is enough.
  have hvalue : value? (2 * ((compact j).map some).length + 2) ((compact j).map some ++ []) =
      some (tree, []) :=
    htree.value?_eq (by rw [List.length_map]; omega) trivial
  rw [List.append_nil] at hvalue
  rw [SyntaxTree.parse?, hvalue]
  exact htree.toJsonWithin?_eq

theorem ofString?_toText_eq (j : Json) :
    ofString? j.toText = (SyntaxTree.parse? ((compact j).map some)).bind SyntaxTree.toJson? := by
  rw [ofString?, SyntaxTree.ofString?, toText, String.toList_ofList]
  rfl

/-- A plain value is read back from its text. -/
theorem ofString?_toText {j : Json} (h : Plain nestingLimit j) : ofString? j.toText = some j := by
  rw [ofString?_toText_eq]
  exact toJson?_parse? h

/-- A plain value is read back from the bytes of its text. -/
theorem ofBytes?_toText {j : Json} (h : Plain nestingLimit j) :
    ofBytes? (Text.Utf8.ofString j.toText) = some j := by
  have htext : SyntaxTree.ofBytes? (Text.Utf8.ofString j.toText) =
      SyntaxTree.parse? ((compact j).map some) := by
    rw [SyntaxTree.ofBytes?, Text.Utf8.ofString, toText, String.toList_ofList,
      Text.Utf8.decode_encode]
  rw [ofBytes?, htext]
  exact toJson?_parse? h

end Json

end VariantSearch
