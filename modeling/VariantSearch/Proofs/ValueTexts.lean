import VariantSearch.Proofs.JsonText

/-!
Values without binary64 numbers have the same text just if they are the same.
-/

namespace VariantSearch.Json

/-- The values are the same, part by part. The members of objects are compared by their names, wherever
they stand. -/
inductive Same : Json → Json → Prop where
  | null : Same null null
  | bool (b : Bool) : Same (bool b) (bool b)
  | integer (n : Int) : Same (integer n) (integer n)
  | double (x : Binary64) : Same (double x) (double x)
  | text (s : String) : Same (text s) (text s)
  | list {items items' : List Json} (hlength : items.length = items'.length)
    (h : ∀ (i : Nat) (j j' : Json), items[i]? = some j → items'[i]? = some j' → Same j j') :
    Same (list items) (list items')
  | object {members members' : List (String × Json)}
    (hnames : ∀ name, name ∈ members.map (·.1) ↔ name ∈ members'.map (·.1))
    (h : ∀ (name : String) (j j' : Json), TextMap.lookup name members = some j →
      TextMap.lookup name members' = some j' → Same j j') :
    Same (object members) (object members')

inductive WithoutDoubles : Json → Prop where
  | null : WithoutDoubles null
  | bool (b : Bool) : WithoutDoubles (bool b)
  | integer (n : Int) : WithoutDoubles (integer n)
  | text (s : String) : WithoutDoubles (text s)
  | list {items : List Json} (h : ∀ item ∈ items, WithoutDoubles item) : WithoutDoubles (list items)
  | object {members : List (String × Json)} (h : ∀ e ∈ members, WithoutDoubles e.2) :
    WithoutDoubles (object members)

/-- The value is one that can be read: its integers fit into 64 bits, since longer ones are binary64
numbers, and its objects list their members in the order of the names, one for each name. -/
inductive Sound : Json → Prop where
  | null : Sound null
  | bool (b : Bool) : Sound (bool b)
  | integer {n : Int} (h : Fits n) : Sound (integer n)
  | double (x : Binary64) : Sound (double x)
  | text (s : String) : Sound (text s)
  | list {items : List Json} (h : ∀ item ∈ items, Sound item) : Sound (list items)
  | object {members : List (String × Json)} (hnames : members.Pairwise (fun a b => a.1 < b.1))
    (h : ∀ e ∈ members, Sound e.2) : Sound (object members)

inductive Kind where
  | null
  | bool
  | number
  | text
  | list
  | object
deriving DecidableEq

def kind : Json → Kind
  | null => .null
  | bool _ => .bool
  | integer _ | double _ => .number
  | text _ => .text
  | list _ => .list
  | object _ => .object

variable {j j' : Json} {limit : Nat}

theorem sound_ofMembers {members : List (String × Json)} (h : ∀ e ∈ members, Sound e.2) :
    Sound (ofMembers members) :=
  .object (TextMap.ofList members).ascending fun e he => h e (TextMap.mem_of_mem_ofList he)

theorem Sound.member? {name : String} (h : Sound j) (hmember : j.member? name = some j') :
    Sound j' := by
  cases h with
  | object _ hmembers => exact hmembers (name, j') (TextMap.mem_of_lookup hmember)
  | _ => cases hmember

/-- An integer that is read fits into 64 bits. -/
theorem sound_of_toJson? {l : NumberLiteral} (h : l.toJson? = some j) : Sound j := by
  have hsize : UInt64.size = 0x10000000000000000 := rfl
  unfold NumberLiteral.toJson? at h
  dsimp only at h
  -- A literal is an integer only if it fits into 64 bits, with a sign or without one.
  split at h
  · next hwhole =>
    cases h
    simp only [Bool.and_eq_true, decide_eq_true_eq] at hwhole
    apply Sound.integer
    constructor
    · omega
    · omega
  split at h
  · next hwhole =>
    cases h
    simp only [Bool.and_eq_true, decide_eq_true_eq] at hwhole
    apply Sound.integer
    constructor
    · omega
    · omega
  · obtain ⟨x, -, rfl⟩ := Option.map_eq_some_iff.1 h
    exact .double x

/-- Every value that is read is sound. -/
theorem sound_of_toJsonWithin? {tree : SyntaxTree} (h : tree.toJsonWithin? limit = some j) :
    Sound j := by
  induction limit generalizing tree j with
  | zero =>
    cases tree with
    | null => cases h; exact .null
    | bool b => cases h; exact .bool b
    | number l => exact sound_of_toJson? h
    | string content =>
      obtain ⟨cs, -, rfl⟩ := Option.map_eq_some_iff.1 h
      exact .text _
    | list items => cases h
    | object members => cases h
  | succ limit ih =>
    cases tree with
    | null => cases h; exact .null
    | bool b => cases h; exact .bool b
    | number l => exact sound_of_toJson? h
    | string content =>
      obtain ⟨cs, -, rfl⟩ := Option.map_eq_some_iff.1 h
      exact .text _
    | list items =>
      obtain ⟨values, hvalues, rfl⟩ := Option.map_eq_some_iff.1 h
      apply Sound.list
      intro item hitem
      obtain ⟨tree, -, htree⟩ := exists_of_mem_mapM hvalues hitem
      exact ih htree
    | object members =>
      change (members.mapM (memberOf? limit)).bind (fun read => some (ofMembers read)) = some j at h
      obtain ⟨read, hread, hj⟩ := Option.bind_eq_some_iff.1 h
      cases hj
      apply sound_ofMembers
      intro e he
      obtain ⟨member, -, hmember⟩ := exists_of_mem_mapM hread he
      obtain ⟨name, -, hvalue⟩ := Option.bind_eq_some_iff.1 hmember
      obtain ⟨value, htree, heq⟩ := Option.bind_eq_some_iff.1 hvalue
      cases heq
      exact ih htree

theorem sound_of_ofString? {s : String} (h : ofString? s = some j) : Sound j := by
  obtain ⟨tree, -, htree⟩ := Option.bind_eq_some_iff.1 h
  exact sound_of_toJsonWithin? htree

theorem Sound.same_self (h : Sound j) : Same j j := by
  induction h with
  | null => exact .null
  | bool b => exact .bool b
  | integer _ => exact .integer _
  | double x => exact .double x
  | text s => exact .text s
  | list _ ih =>
    refine .list rfl fun i item item' hitem hitem' => ?_
    obtain rfl := Option.some.inj (hitem.symm.trans hitem')
    exact ih item (List.mem_of_getElem? hitem)
  | object _ _ ih =>
    refine .object (fun _ => Iff.rfl) fun name value value' hvalue hvalue' => ?_
    obtain rfl := Option.some.inj (hvalue.symm.trans hvalue')
    exact ih (name, value) (TextMap.mem_of_lookup hvalue)

theorem Same.kind_eq (h : Same j j') : j.kind = j'.kind := by
  cases h with
  | _ => rfl

/-- The order of members has no meaning, and sound values have one order of them. -/
theorem Same.eq (h : Same j j') (hj : Sound j) (hj' : Sound j') : j = j' := by
  induction h with
  | null | bool | integer | double | text => rfl
  | @list items items' hlength _ ih =>
    cases hj with | list hitems =>
    cases hj' with | list hitems' =>
    refine congrArg Json.list (List.ext_getElem hlength fun i hi hi' => ?_)
    have hitem := List.getElem?_eq_getElem hi
    have hitem' := List.getElem?_eq_getElem hi'
    exact ih i _ _ hitem hitem' (hitems _ (List.getElem_mem hi)) (hitems' _ (List.getElem_mem hi'))
  | @object members members' hnames _ ih =>
    cases hj with | object hsorted hmembers =>
    cases hj' with | object hsorted' hmembers' =>
    let map : TextMap Json := ⟨members, hsorted⟩
    let map' : TextMap Json := ⟨members', hsorted'⟩
    -- Members in the order of their names are the entries of a map.
    have hmaps : map = map' := by
      refine TextMap.ext_of_keys hnames fun name value value' hvalue hvalue' => ?_
      exact ih name value value' hvalue hvalue' (hmembers _ (TextMap.mem_of_lookup hvalue))
        (hmembers' _ (TextMap.mem_of_lookup hvalue'))
    exact congrArg (Json.object <| TextMap.entries ·) hmaps

theorem same_iff_eq (hj : Sound j) (hj' : Sound j') : Same j j' ↔ j = j' := by
  constructor
  · exact fun h => h.eq hj hj'
  · rintro rfl
    exact hj.same_self

theorem Plain.mono {more : Nat} (h : Plain limit j) (hle : limit ≤ more) : Plain more j := by
  induction h generalizing more with
  | null => exact .null
  | bool b => exact .bool b
  | integer hn => exact .integer hn
  | double hx => exact .double hx
  | text s => exact .text s
  | list _ ih =>
    cases more with
    | zero => omega
    | succ more => exact .list fun item hitem => ih item hitem (Nat.le_of_succ_le_succ hle)
  | object hnames _ ih =>
    cases more with
    | zero => omega
    | succ more => exact .object hnames fun e he => ih e he (Nat.le_of_succ_le_succ hle)

/-- Parts that are plain up to limits of their own are so up to a common one. -/
theorem exists_common_limit {parts : List Json} (h : ∀ part ∈ parts, ∃ limit, Plain limit part) :
    ∃ limit, ∀ part ∈ parts, Plain limit part := by
  induction parts with
  | nil => exact ⟨0, fun part hpart => absurd hpart List.not_mem_nil⟩
  | cons first rest ih =>
    obtain ⟨limit, hfirst⟩ := h first List.mem_cons_self
    obtain ⟨more, hrest⟩ := ih fun part hpart => h part (List.mem_cons_of_mem _ hpart)
    refine ⟨max limit more, fun part hpart => ?_⟩
    rcases List.mem_cons.1 hpart with rfl | hpart
    · exact hfirst.mono (Nat.le_max_left _ _)
    · exact (hrest part hpart).mono (Nat.le_max_right _ _)

/-- However deep a value is, some limit is enough for it. -/
theorem Sound.exists_plain (h : Sound j) (hdoubles : WithoutDoubles j) : ∃ limit, Plain limit j := by
  induction h with
  | null => exact ⟨0, .null⟩
  | bool b => exact ⟨0, .bool b⟩
  | integer hn => exact ⟨0, .integer hn⟩
  | double x => cases hdoubles
  | text s => exact ⟨0, .text s⟩
  | list _ ih =>
    cases hdoubles with | list hitems =>
    obtain ⟨limit, hlimit⟩ := exists_common_limit fun item hitem => ih item hitem (hitems item hitem)
    exact ⟨limit + 1, .list hlimit⟩
  | @object members hnames _ ih =>
    cases hdoubles with | object hmembers =>
    have hvalues : ∀ value ∈ members.map (·.2), ∃ limit, Plain limit value :=
      List.forall_mem_map.2 fun e he => ih e he (hmembers e he)
    obtain ⟨limit, hlimit⟩ := exists_common_limit hvalues
    exact ⟨limit + 1, .object hnames (List.forall_mem_map.1 hlimit)⟩

/-- The reader takes one tree from a text, so no two values that are read back have the same one. -/
theorem Plain.eq_of_compact_eq (h : Plain limit j) (h' : Plain limit j')
    (htext : compact j = compact j') : j = j' := by
  obtain ⟨tree, htree⟩ := exists_reads h
  obtain ⟨tree', htree'⟩ := exists_reads h'
  have hread : value? (2 * (compact j).length) ((compact j).map some ++ []) = some (tree, []) :=
    htree.value?_eq le_rfl trivial
  have hread' : value? (2 * (compact j').length) ((compact j').map some ++ []) = some (tree', []) :=
    htree'.value?_eq le_rfl trivial
  rw [← htext, hread] at hread'
  obtain ⟨rfl, -⟩ := Prod.ext_iff.1 (Option.some.inj hread')
  have hvalue := htree'.toJsonWithin?_eq
  rw [htree.toJsonWithin?_eq] at hvalue
  exact Option.some.inj hvalue

/-- The text of a value without binary64 numbers tells all of it. -/
theorem toText_eq_iff_same (hj : Sound j) (hj' : Sound j') (hdoubles : WithoutDoubles j)
    (hdoubles' : WithoutDoubles j') : j.toText = j'.toText ↔ Same j j' := by
  rw [same_iff_eq hj hj']
  constructor
  · intro htext
    have hcompact : compact j = compact j' := String.ofList_inj.1 htext
    obtain ⟨limit, hlimit⟩ := hj.exists_plain hdoubles
    obtain ⟨limit', hlimit'⟩ := hj'.exists_plain hdoubles'
    have hplain : Plain (max limit limit') j := hlimit.mono (Nat.le_max_left _ _)
    exact hplain.eq_of_compact_eq (hlimit'.mono (Nat.le_max_right _ _)) hcompact
  · rintro rfl
    rfl

end VariantSearch.Json
