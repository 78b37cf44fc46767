import Mathlib.Data.List.TakeWhile
import VariantSearch.Proofs.EncodedText
import VariantSearch.Web.Url

namespace VariantSearch

namespace Text.Utf8

/-- A text without some of the characters lacks at least one byte for each of them. -/
theorem length_encode_of_sublist {a b : List Char} (h : a.Sublist b) :
    (encode a).length + b.length ≤ (encode b).length + a.length := by
  induction h with
  | slnil => exact Nat.le_refl _
  | cons c h ih =>
    have hc := length_encodeChar_pos c
    rw [encode_cons, List.length_append, List.length_cons]
    omega
  | cons_cons c h ih =>
    rw [encode_cons, encode_cons, List.length_append, List.length_append, List.length_cons,
      List.length_cons]
    omega

/-- Texts with the same bytes are equal. -/
theorem encode_inj {a b : List Char} (h : encode a = encode b) : a = b := by
  have hread := decode?_encode a
  rw [h, decode?_encode b] at hread
  exact (Option.some.inj hread).symm

end Text.Utf8

namespace Web.Percent

open Text

def charValue? (c : Char) : Option UInt8 := (Utf8.encodeChar c).head?.bind digitValue?

def StartsWithDigits (cs : List Char) : Prop :=
  ∃ high low rest, cs = high :: low :: rest ∧ (charValue? high).isSome ∧ (charValue? low).isSome

theorem digitValue?_eq_none {b : UInt8} (h : 102 < b.toNat) : digitValue? b = none := by
  have h57 : ¬ b ≤ 57 := by rw [UInt8.le_iff_toNat_le]; change ¬ b.toNat ≤ 57; omega
  have h70 : ¬ b ≤ 70 := by rw [UInt8.le_iff_toNat_le]; change ¬ b.toNat ≤ 70; omega
  have h102 : ¬ b ≤ 102 := by rw [UInt8.le_iff_toNat_le]; change ¬ b.toNat ≤ 102; omega
  simp [digitValue?, h57, h70, h102]

/-- A digit is one byte, since longer characters start with greater bytes. -/
theorem encodeChar_of_charValue? {c : Char} {v : UInt8} (h : charValue? c = some v) :
    ∃ b, Utf8.encodeChar c = [b] ∧ digitValue? b = some v := by
  have hlt := Utf8.toNat_lt c
  unfold charValue? at h
  unfold Utf8.encodeChar at h ⊢
  dsimp only at h ⊢
  split
  · next hone =>
    rw [if_pos hone] at h
    exact ⟨_, rfl, h⟩
  · next hone =>
    exfalso
    rw [if_neg hone] at h
    -- The first of several bytes is greater than every digit.
    have hbig {n : Nat} (hn : n < 256) (hn' : 102 < n) : digitValue? n.toUInt8 = none :=
      digitValue?_eq_none (by rwa [Utf8.toNat_toUInt8 hn])
    repeat' split at h
    all_goals
      rw [List.head?_cons, Option.bind_some, hbig (by omega) (by omega)] at h
      cases h

theorem charValue?_of_encode {cs : List Char} {b : UInt8} {bytes : List UInt8}
    (h : Utf8.encode cs = b :: bytes) :
    ∃ c rest, cs = c :: rest ∧ charValue? c = digitValue? b := by
  cases cs with
  | nil => cases h
  | cons c rest =>
    refine ⟨c, rest, rfl, ?_⟩
    have hpos := Utf8.length_encodeChar_pos c
    rw [Utf8.encode_cons] at h
    cases hc : Utf8.encodeChar c with
    | nil => rw [hc] at hpos; cases hpos
    | cons first more =>
      rw [hc] at h
      rw [charValue?, hc, List.head?_cons, Option.bind_some, (List.cons.inj h).1]

theorem decodeText_cons_of_ne {c : Char} (h : c ≠ '%') (cs : List Char) :
    decodeText (c :: cs) = Utf8.encodeChar c ++ decodeText cs := by
  rw [decodeText, Utf8.encode_cons]
  exact decode_append_of_not_mem (fun hmem => h (Utf8.eq_percent_of_mem_encodeChar hmem)) _

theorem decodeText_escape {high low : Char} {v w : UInt8} (hhigh : charValue? high = some v)
    (hlow : charValue? low = some w) (rest : List Char) :
    decodeText ('%' :: high :: low :: rest) = (v * 16 + w) :: decodeText rest := by
  obtain ⟨b, hb, hbv⟩ := encodeChar_of_charValue? hhigh
  obtain ⟨b', hb', hbw⟩ := encodeChar_of_charValue? hlow
  have hbyte : byteOf? b b' = some (v * 16 + w) := by
    rw [byteOf?, hbv, hbw]
    rfl
  rw [decodeText, Utf8.encode_cons, Utf8.encode_cons, Utf8.encode_cons, hb, hb']
  change decode (37 :: b :: b' :: Utf8.encode rest) = _
  rw [decode, hbyte]
  rfl

/-- A percent sign that starts no escape stands for itself. -/
theorem decodeText_percent {cs : List Char} (h : ¬ StartsWithDigits cs) :
    decodeText ('%' :: cs) = 37 :: decodeText cs := by
  change decode (37 :: Utf8.encode cs) = 37 :: decode (Utf8.encode cs)
  rw [decode.eq_def]
  split
  · next high low bytes heq =>
    obtain ⟨-, hbytes⟩ := List.cons.inj heq
    rw [hbytes]
    cases hbyte : byteOf? high low with
    | none => rfl
    | some b =>
      -- Then both bytes are digits, and so are the first two characters.
      exfalso
      obtain ⟨v, hv, hrest⟩ := Option.bind_eq_some_iff.1 hbyte
      obtain ⟨w, hw, -⟩ := Option.bind_eq_some_iff.1 hrest
      obtain ⟨c, rest, rfl, hc⟩ := charValue?_of_encode hbytes
      rw [hv] at hc
      obtain ⟨b', hb', -⟩ := encodeChar_of_charValue? hc
      rw [Utf8.encode_cons, hb'] at hbytes
      obtain ⟨d, rest', rfl, hd⟩ := charValue?_of_encode (List.cons.inj hbytes).2
      rw [hw] at hd
      exact h ⟨c, d, rest', rfl, by rw [hc]; rfl, by rw [hd]; rfl⟩
  · next b bytes _ heq =>
    obtain ⟨rfl, rfl⟩ := List.cons.inj heq
    rfl
  · next heq => cases heq

theorem length_decode_le (bytes : List UInt8) : (decode bytes).length ≤ bytes.length := by
  fun_induction decode bytes with
  | case1 high low rest b _ ih => simp only [List.length_cons]; omega
  | case2 high low rest _ ih => simpa using ih
  | case3 b rest _ ih => simpa using ih
  | case4 => exact Nat.le_refl _

/-- What the escapes of a text say is never longer than the text. -/
theorem length_decodeText_le (cs : List Char) :
    (decodeText cs).length ≤ (Utf8.encode cs).length := length_decode_le _

section Keep

variable {keep : Char → Bool}

/-- An escaped character starts with a percent sign, and says its bytes. -/
theorem decodeText_encode_of_not_kept {c : Char} (h : ¬ keep c = true) (cs : List Char) :
    ∃ more, encode keep (c :: cs) = '%' :: more ∧
      decodeText (encode keep (c :: cs)) = Utf8.encodeChar c ++ decodeText (encode keep cs) := by
  obtain ⟨b, bytes, hbytes⟩ := List.exists_cons_of_length_pos (Utf8.length_encodeChar_pos c)
  rw [encode_cons_of_not_kept h]
  refine ⟨(((Utf8.encodeChar c).flatMap escapeByte) ++ encode keep cs).tail, ?_, ?_⟩
  · rw [hbytes]
    rfl
  · rw [decodeText, Utf8.encode_append, decode_escapes_append]
    rfl

/-- Digits are not escaped, so escaping makes no digits stand behind a percent sign. -/
theorem not_startsWithDigits_encode {cs : List Char} (h : ¬ StartsWithDigits cs) :
    ¬ StartsWithDigits (encode keep cs) := by
  have hpercent : ¬ (charValue? '%').isSome := by decide
  rintro ⟨high, low, rest, heq, hhigh, hlow⟩
  cases cs with
  | nil => cases heq
  | cons c cs =>
    -- A character that is not kept would start with a percent sign, which is no digit.
    by_cases hc : keep c = true
    swap
    · obtain ⟨more, hmore, -⟩ := decodeText_encode_of_not_kept hc cs
      rw [hmore] at heq
      rw [← (List.cons.inj heq).1] at hhigh
      exact hpercent hhigh
    rw [encode_cons_of_kept hc] at heq
    obtain ⟨rfl, hrest⟩ := List.cons.inj heq
    cases cs with
    | nil => cases hrest
    | cons d cs =>
      by_cases hd : keep d = true
      · rw [encode_cons_of_kept hd] at hrest
        obtain ⟨rfl, -⟩ := List.cons.inj hrest
        exact h ⟨_, _, cs, rfl, hhigh, hlow⟩
      · obtain ⟨more, hmore, -⟩ := decodeText_encode_of_not_kept hd cs
        rw [hmore] at hrest
        rw [← (List.cons.inj hrest).1] at hlow
        exact hpercent hlow

/-- Escaping more characters of a text changes nothing in what its escapes say, as long as percent
signs and digits are kept. -/
theorem decodeText_encode_of_kept (hpercent : keep '%' = true)
    (hdigit : ∀ c, (charValue? c).isSome → keep c = true) (cs : List Char) :
    decodeText (encode keep cs) = decodeText cs := by
  -- The cases are those of the decoder, which takes an escape as one piece, so the recursion is not
  -- on single characters.
  match cs with
  | [] => rfl
  | c :: rest =>
    by_cases hc : c = '%'
    swap
    · have ih := decodeText_encode_of_kept hpercent hdigit rest
      rw [decodeText_cons_of_ne hc, ← ih]
      by_cases hkeep : keep c = true
      · rw [encode_cons_of_kept hkeep, decodeText_cons_of_ne hc]
      · obtain ⟨-, -, h⟩ := decodeText_encode_of_not_kept hkeep rest
        exact h
    subst hc
    by_cases hdigits : StartsWithDigits rest
    · obtain ⟨high, low, rest, rfl, hhigh, hlow⟩ := hdigits
      obtain ⟨v, hv⟩ := Option.isSome_iff_exists.1 hhigh
      obtain ⟨w, hw⟩ := Option.isSome_iff_exists.1 hlow
      have ih := decodeText_encode_of_kept hpercent hdigit rest
      rw [encode_cons_of_kept hpercent, encode_cons_of_kept (hdigit high hhigh),
        encode_cons_of_kept (hdigit low hlow), decodeText_escape hv hw, decodeText_escape hv hw, ih]
    · have ih := decodeText_encode_of_kept hpercent hdigit rest
      rw [encode_cons_of_kept hpercent, decodeText_percent hdigits,
        decodeText_percent (not_startsWithDigits_encode hdigits), ih]
termination_by cs.length

end Keep

end Web.Percent

namespace Web.Url

open Percent

theorem keepInPath_of_charValue? {c : Char} (h : (charValue? c).isSome) : keepInPath c = true := by
  obtain ⟨v, hv⟩ := Option.isSome_iff_exists.1 h
  obtain ⟨b, hb, hdigit⟩ := encodeChar_of_charValue? hv
  have hsmall : ∀ n < 128, (charValue? (Char.ofNat n)).isSome → keepInPath (Char.ofNat n) = true := by
    decide
  have hascii : c.toNat < 128 := by
    by_contra hbig
    have hlength := congrArg List.length hb
    unfold Text.Utf8.encodeChar at hlength
    dsimp only at hlength
    rw [if_neg hbig] at hlength
    repeat' split at hlength
    all_goals cases hlength
  rw [← Char.ofNat_toNat c] at h ⊢
  exact hsmall c.toNat hascii h

/-- Escaping a path changes nothing in what its escapes say. -/
theorem decodeText_encode_keepInPath (cs : List Char) :
    decodeText (encode keepInPath cs) = decodeText cs :=
  decodeText_encode_of_kept (by decide) (fun _ => keepInPath_of_charValue?) cs

def slashed (cs : List Char) : List Char := cs.map fun c => if c = '\\' then '/' else c

theorem slashed_of_not_mem {cs : List Char} (h : '\\' ∉ cs) : slashed cs = cs := by
  refine (List.map_congr_left fun c hc => ?_).trans (List.map_id cs)
  have hne : c ≠ '\\' := fun heq => h (heq ▸ hc)
  exact if_neg hne

theorem slash_mem_slashed {cs : List Char} {c : Char} (hc : c ∈ cs) (h : isSlash c = true) :
    '/' ∈ slashed cs := by
  refine List.mem_map.2 ⟨c, hc, ?_⟩
  simp only [isSlash, Bool.or_eq_true, beq_iff_eq] at h
  rcases h with rfl | rfl <;> rfl

/-- Slashes for backslashes change no number of bytes. -/
theorem length_encode_slashed (cs : List Char) :
    (Text.Utf8.encode (slashed cs)).length = (Text.Utf8.encode cs).length := by
  induction cs with
  | nil => rfl
  | cons c rest ih =>
    have hcons : slashed (c :: rest) = (if c = '\\' then '/' else c) :: slashed rest := rfl
    rw [hcons, Text.Utf8.encode_cons, Text.Utf8.encode_cons, List.length_append, List.length_append,
      ih]
    split
    · next hc =>
      subst hc
      rfl
    · rfl

theorem segments_append_slash (a b : List Char) :
    segments (a ++ '/' :: b) = segments a ++ segments b := by
  change Text.pieces '/' (slashed (a ++ '/' :: b)) = _
  rw [slashed, List.map_append]
  exact Text.pieces_append_sep '/' _ _

def IsDots (segment : List Char) : Prop :=
  plainDots segment = ['.'] ∨ plainDots segment = ['.', '.']

/-- However dots are written, the escapes say that they are dots. -/
theorem decodeText_of_plainDots {n : Nat} {segment : List Char}
    (h : plainDots segment = List.replicate n '.') : decodeText segment = List.replicate n 46 := by
  induction n generalizing segment with
  | zero =>
    unfold plainDots at h
    split at h
    · split at h <;> cases h
    · cases h
    · rfl
  | succ n ih =>
    rw [List.replicate_succ] at h ⊢
    unfold plainDots at h
    split at h
    · next c rest =>
      split at h
      · next hc =>
        have hrest := ih (List.cons.inj h).2
        -- An escaped dot, whose second digit may be of either case.
        have hvalue : charValue? c = some 14 := by rcases hc with rfl | rfl <;> decide
        rw [decodeText_escape (show charValue? '2' = some 2 by decide) hvalue, hrest]
        rfl
      · exact absurd (List.cons.inj h).1 (by decide)
    · next c rest _ =>
      obtain ⟨rfl, hrest⟩ := List.cons.inj h
      rw [decodeText_cons_of_ne (by decide), ih hrest]
      rfl
    · cases h

theorem mem_place {before : List (List Char)} {segment x : List Char} {isLast : Bool}
    (h : x ∈ place before segment isLast) :
    x ∈ before ∨ x = [] ∨ (x = segment ∧ ¬ IsDots segment) := by
  unfold place at h
  dsimp only at h
  -- Two dots take one segment away, and one dot leaves them as they are; either may end in a slash.
  split at h
  · split at h
    · rcases List.mem_cons.1 h with h | h
      · exact Or.inr (Or.inl h)
      · exact Or.inl (List.mem_of_mem_drop h)
    · exact Or.inl (List.mem_of_mem_drop h)
  · next htwo =>
    split at h
    · split at h
      · rcases List.mem_cons.1 h with h | h
        · exact Or.inr (Or.inl h)
        · exact Or.inl h
      · exact Or.inl h
    · next hone =>
      rcases List.mem_cons.1 h with rfl | h
      · exact Or.inr (Or.inr ⟨rfl, fun hdots => hdots.elim hone htwo⟩)
      · exact Or.inl h

/-- Resolved segments are segments of the text that are no dot segments, or empty. -/
theorem mem_resolve {before segments : List (List Char)} {x : List Char}
    (h : x ∈ resolve before segments) :
    x ∈ before ∨ x = [] ∨ (x ∈ segments ∧ ¬ IsDots x) := by
  fun_induction resolve before segments with
  | case1 before => exact Or.inl (List.mem_reverse.1 h)
  | case2 before last =>
    rcases mem_place (List.mem_reverse.1 h) with h | h | ⟨rfl, h⟩
    · exact Or.inl h
    · exact Or.inr (Or.inl h)
    · exact Or.inr (Or.inr ⟨List.mem_singleton.2 rfl, h⟩)
  | case3 before segment more _ ih =>
    rcases ih h with h | h | ⟨hmem, h⟩
    · rcases mem_place h with h | h | ⟨rfl, h⟩
      · exact Or.inl h
      · exact Or.inr (Or.inl h)
      · exact Or.inr (Or.inr ⟨List.mem_cons_self, h⟩)
    · exact Or.inr (Or.inl h)
    · exact Or.inr (Or.inr ⟨List.mem_cons_of_mem segment hmem, h⟩)

theorem place_of_not_isDots {before : List (List Char)} {segment : List Char} {isLast : Bool}
    (h : ¬ IsDots segment) : place before segment isLast = segment :: before := by
  obtain ⟨hone, htwo⟩ := not_or.1 h
  simp only [place, if_neg hone, if_neg htwo]

/-- No resolved segment holds a slash. -/
theorem slash_not_mem_of_mem_resolve {cs x : List Char}
    (h : x ∈ resolve [] ((segments cs).map (encode keepInPath))) : '/' ∉ x := by
  rcases mem_resolve h with h | rfl | ⟨h, -⟩
  · cases h
  · exact List.not_mem_nil
  · obtain ⟨segment, hsegment, rfl⟩ := List.mem_map.1 h
    intro hslash
    rcases mem_encode hslash with ⟨hmem, -⟩ | ⟨-, hne⟩
    · exact (Text.of_mem_pieces hsegment).1 hmem
    · exact hne rfl

/-- Segments among which there is no dot segment stay as they are. -/
theorem resolve_of_not_isDots {before segments : List (List Char)}
    (h : ∀ segment ∈ segments, ¬ IsDots segment) :
    resolve before segments = before.reverse ++ segments := by
  fun_induction resolve before segments with
  | case1 before => exact (List.append_nil _).symm
  | case2 before last =>
    rw [place_of_not_isDots (h last (List.mem_singleton.2 rfl)), List.reverse_cons]
  | case3 before segment more _ ih =>
    rw [place_of_not_isDots (h segment List.mem_cons_self)] at ih ⊢
    rw [ih fun s hs => h s (List.mem_cons_of_mem segment hs), List.reverse_cons, List.append_assoc,
      List.singleton_append]

theorem pathOf_cons_slash (cs : List Char) :
    pathOf ('/' :: cs) =
      '/' :: Text.joined '/' (resolve [] ((segments cs).map (encode keepInPath))) := rfl

def unbroken (cs : List Char) : List Char := cs.filter fun c => c != '\t' && c != '\n' && c != '\r'

def endsAuthority (c : Char) : Bool := isSlash c || c == '?' || c == '#'

/-- An address that names a host, and no path, query or fragment. -/
def IsBare (cs : List Char) : Prop :=
  ∃ scheme slashes authority, clean cs = scheme ++ ':' :: (slashes ++ authority) ∧ ':' ∉ scheme ∧
    (∀ c ∈ slashes, isSlash c = true) ∧ authority ≠ [] ∧
    ∀ c ∈ authority, endsAuthority c = false

theorem unbroken_append (a b : List Char) : unbroken (a ++ b) = unbroken a ++ unbroken b :=
  List.filter_append a b

/-- Only control characters and blanks between two texts are lost when the first is cleaned alone. -/
theorem clean_append {base path : List Char} {last : Char} (hbase : clean base ≠ [])
    (hpath : path.getLast? = some last) (hlast : isControlOrSpace last = false) :
    ∃ blanks, (∀ c ∈ blanks, isControlOrSpace c = true) ∧
      clean (base ++ path) = clean base ++ blanks ++ unbroken path := by
  let start := base.dropWhile isControlOrSpace
  have hstart : start ≠ [] := by
    intro hnil
    refine hbase ?_
    change unbroken (start.reverse.dropWhile isControlOrSpace).reverse = []
    rw [hnil]
    rfl
  -- The path ends in a character that stays, so nothing is taken from the end of the whole.
  have hclean : clean (base ++ path) = unbroken (start ++ path) := by
    obtain ⟨front, rfl⟩ := List.getLast?_eq_some_iff.1 hpath
    change unbroken (((base ++ (front ++ [last])).dropWhile isControlOrSpace).reverse.dropWhile
      isControlOrSpace).reverse = _
    rw [List.dropWhile_append, if_neg (mt List.isEmpty_iff.1 hstart)]
    simp only [List.reverse_append, List.reverse_cons, List.reverse_nil, List.nil_append,
      List.cons_append, List.dropWhile_cons, hlast]
    simp [start]
  -- What the base alone loses at its end now stands before the path.
  have hparts : start = (start.reverse.dropWhile isControlOrSpace).reverse ++
      (start.reverse.takeWhile isControlOrSpace).reverse := by
    rw [← List.reverse_append, List.takeWhile_append_dropWhile, List.reverse_reverse]
  refine ⟨unbroken (start.reverse.takeWhile isControlOrSpace).reverse, ?_, ?_⟩
  · intro c hc
    have hmem := List.mem_reverse.1 (List.mem_of_mem_filter hc)
    exact List.mem_takeWhile_imp hmem
  · rw [hclean, unbroken_append]
    conv_lhs => rw [hparts, unbroken_append]
    rfl

theorem afterScheme_eq_ok {secure : Bool} {cs : List Char} {u : Url}
    (h : afterScheme secure cs = .ok u) :
    (u.path, u.query) =
      tailOf ((cs.dropWhile isSlash).dropWhile fun c => !endsAuthority c) := by
  simp only [afterScheme] at h
  -- Whatever the host is, the path and the query come from behind it.
  repeat' split at h
  all_goals cases h <;> rfl

theorem not_endsAuthority_of_isControlOrSpace {c : Char} (h : isControlOrSpace c = true) :
    endsAuthority c = false := by
  cases hends : endsAuthority c with
  | false => rfl
  | true =>
    simp only [endsAuthority, isSlash, Bool.or_eq_true, beq_iff_eq] at hends
    rcases hends with ((rfl | rfl) | rfl) | rfl <;> cases h

/-- The slashes in front of an authority end where it starts. -/
theorem dropWhile_slashes {slashes authority : List Char}
    (hslashes : ∀ c ∈ slashes, isSlash c = true) (hne : authority ≠ [])
    (hauthority : ∀ c ∈ authority, endsAuthority c = false) (rest : List Char) :
    (slashes ++ (authority ++ rest)).dropWhile isSlash = authority ++ rest := by
  obtain ⟨first, more, rfl⟩ := List.exists_cons_of_ne_nil hne
  have hfirst : isSlash first = false := by
    have hends := hauthority first List.mem_cons_self
    simp only [endsAuthority, Bool.or_eq_false_iff] at hends
    exact hends.1.1
  rw [List.dropWhile_append_of_pos hslashes, List.cons_append,
    List.dropWhile_cons_of_neg (by simp [hfirst])]

/-- An authority ends where the path starts. -/
theorem span_authority {authority path : List Char}
    (hauthority : ∀ c ∈ authority, endsAuthority c = false) (hpath : path.head? = some '/') :
    (authority ++ path).takeWhile (fun c => !endsAuthority c) = authority ∧
      (authority ++ path).dropWhile (fun c => !endsAuthority c) = path := by
  have hinside : ∀ c ∈ authority, (!endsAuthority c) = true := by
    intro c hc
    rw [Bool.not_eq_true']
    exact hauthority c hc
  obtain ⟨rest, rfl⟩ := List.head?_eq_some_iff.1 hpath
  rw [List.takeWhile_append_of_pos hinside, List.dropWhile_append_of_pos hinside]
  exact ⟨List.append_nil _, rfl⟩

/-- A path behind an address that has none is all there is of a path and a query. -/
theorem parse_append_eq_ok {base path : List Char} {last : Char} {u : Url} (hbase : IsBare base)
    (hslash : path.head? = some '/') (hpath : path.getLast? = some last)
    (hlast : isControlOrSpace last = false) (h : parse (String.ofList (base ++ path)) = .ok u) :
    (u.path, u.query) = tailOf (unbroken path) := by
  obtain ⟨scheme, slashes, authority, hclean, hscheme, hslashes, hne, hauthority⟩ := hbase
  have hsome : clean base ≠ [] := by simp [hclean]
  obtain ⟨blanks, hblanks, hwhole⟩ := clean_append hsome hpath hlast
  have hhead : (unbroken path).head? = some '/' := by
    obtain ⟨rest, rfl⟩ := List.head?_eq_some_iff.1 hslash
    rfl
  -- Blanks in front of the path belong to the authority.
  have htail : ((slashes ++ (authority ++ blanks ++ unbroken path)).dropWhile isSlash).dropWhile
      (fun c => !endsAuthority c) = unbroken path := by
    have hinside : ∀ c ∈ authority ++ blanks, endsAuthority c = false := by
      intro c hc
      rcases List.mem_append.1 hc with hc | hc
      · exact hauthority c hc
      · exact not_endsAuthority_of_isControlOrSpace (hblanks c hc)
    rw [dropWhile_slashes hslashes (List.append_ne_nil_of_left_ne_nil hne _) hinside]
    exact (span_authority hinside hhead).2
  have htext : clean (base ++ path) =
      scheme ++ ':' :: (slashes ++ (authority ++ blanks ++ unbroken path)) := by
    rw [hwhole, hclean]
    simp only [List.append_assoc, List.cons_append]
  rw [parse, String.toList_ofList, htext, Text.cutFirst?_append hscheme] at h
  dsimp only at h
  rw [← htail]
  repeat' split at h
  · cases h
  · exact afterScheme_eq_ok h
  · exact afterScheme_eq_ok h
  · cases h

theorem clean_of_visible {cs : List Char} (h : ∀ c ∈ cs, isControlOrSpace c = false) :
    clean cs = cs := by
  have hdrop {l : List Char} (hl : ∀ c ∈ l, isControlOrSpace c = false) :
      l.dropWhile isControlOrSpace = l := by
    cases l with
    | nil => rfl
    | cons c l => exact List.dropWhile_cons_of_neg (by simp [hl c List.mem_cons_self])
  have hreverse : ∀ c ∈ cs.reverse, isControlOrSpace c = false :=
    fun c hc => h c (List.mem_reverse.1 hc)
  rw [clean, hdrop h, hdrop hreverse, List.reverse_reverse]
  refine List.filter_eq_self.2 fun c hc => ?_
  have hne {d : Char} (hd : isControlOrSpace d = true) : c ≠ d := (ne_of_test hd (h c hc)).symm
  simp [@hne '\t' rfl, @hne '\n' rfl, @hne '\r' rfl]

/-- The text behind the authority decides the path and the query, and nothing else. -/
theorem afterScheme_append {slashes authority path : List Char}
    (hslashes : ∀ c ∈ slashes, isSlash c = true) (hne : authority ≠ [])
    (hauthority : ∀ c ∈ authority, endsAuthority c = false) (hpath : path.head? = some '/')
    (secure : Bool) :
    afterScheme secure (slashes ++ (authority ++ path)) =
      (afterScheme secure (slashes ++ authority)).map fun u =>
        { u with path := (tailOf path).1, query := (tailOf path).2 } := by
  have hbehind := dropWhile_slashes hslashes hne hauthority
  have hbehind' := hbehind []
  obtain ⟨htake, hdrop⟩ := span_authority hauthority hpath
  have htake' : authority.takeWhile (fun c => !endsAuthority c) = authority := by
    rw [List.takeWhile_eq_self_iff]
    intro c hc
    rw [hauthority c hc]
    rfl
  rw [List.append_nil] at hbehind'
  simp only [endsAuthority] at htake htake' hdrop
  simp only [afterScheme, hbehind, hbehind', htake, htake', hdrop]
  -- The host and its number come from the authority, which is the same on both sides.
  repeat' split
  all_goals simp_all [Except.map]

/-- A path behind an address without one becomes its path and query. -/
theorem parse_append {base path : List Char} {u : Web.Url} (hbase : IsBare base)
    (hvisible : ∀ c ∈ base ++ path, isControlOrSpace c = false) (hpath : path.head? = some '/')
    (h : parse (String.ofList base) = .ok u) :
    parse (String.ofList (base ++ path)) =
      .ok { u with path := (tailOf path).1, query := (tailOf path).2 } := by
  obtain ⟨scheme, slashes, authority, hclean, hscheme, hslashes, hne, hauthority⟩ := hbase
  have hbare : clean base = base :=
    clean_of_visible fun c hc => hvisible c (List.mem_append_left _ hc)
  have hwhole : clean (base ++ path) = scheme ++ ':' :: (slashes ++ (authority ++ path)) := by
    rw [clean_of_visible hvisible, ← hbare, hclean]
    simp only [List.append_assoc, List.cons_append]
  -- Both addresses are the same up to the end of the authority.
  have happend := afterScheme_append hslashes hne hauthority hpath
  rw [parse, String.toList_ofList, hclean, Text.cutFirst?_append hscheme] at h
  rw [parse, String.toList_ofList, hwhole, Text.cutFirst?_append hscheme]
  dsimp only at h ⊢
  split at h
  · cases h
  next hname =>
  rw [if_neg hname]
  split at h
  · next hhttp => rw [if_pos hhttp, happend, h]; rfl
  next hhttp =>
  rw [if_neg hhttp]
  split at h
  · next hhttps => rw [if_pos hhttps, happend, h]; rfl
  · cases h

open Text

/-- A text that is a segment of a path as it stands: no character of it ends a segment, a path or a
query or is dropped from addresses, it does not stand for other segments, and it has no escape. -/
structure IsSegment (cs : List Char) : Prop where
  chars : ∀ c ∈ cs, c ∉ "/\\?#\t\n\r".toList
  one_dot : cs ≠ ['.']
  two_dots : cs ≠ ['.', '.']
  plain : decodeText cs = Utf8.encode cs

instance (cs : List Char) : Decidable (IsSegment cs) :=
  decidable_of_iff
    (cs.all (fun c => !"/\\?#\t\n\r".toList.contains c) = true ∧ cs ≠ ['.'] ∧ cs ≠ ['.', '.'] ∧
      decodeText cs = Utf8.encode cs)
    ⟨fun ⟨h, hone, htwo, hplain⟩ => ⟨by simpa using h, hone, htwo, hplain⟩,
      fun h => ⟨by simpa using h.chars, h.one_dot, h.two_dots, h.plain⟩⟩

theorem IsSegment.not_mem {cs : List Char} (h : IsSegment cs) {d : Char}
    (hd : d ∈ "/\\?#\t\n\r".toList) : d ∉ cs := fun hmem => h.chars d hmem hd

theorem IsSegment.unbroken_eq {cs : List Char} (h : IsSegment cs) : unbroken cs = cs := by
  refine List.filter_eq_self.2 fun c hc => ?_
  have htab : c ≠ '\t' := fun heq => h.not_mem (by decide) (heq ▸ hc)
  have hline : c ≠ '\n' := fun heq => h.not_mem (by decide) (heq ▸ hc)
  have hreturn : c ≠ '\r' := fun heq => h.not_mem (by decide) (heq ▸ hc)
  simp [htab, hline, hreturn]

/-- However it is escaped, a segment is no dot segment: what stands for dots says dots. -/
theorem IsSegment.not_isDots {cs : List Char} (h : IsSegment cs) :
    ¬ IsDots (encode keepInPath cs) := by
  have hread := decodeText_encode_keepInPath cs
  rw [h.plain] at hread
  rintro (hone | htwo)
  · rw [decodeText_of_plainDots (n := 1) hone] at hread
    exact h.one_dot (Utf8.encode_inj (b := ['.']) hread.symm)
  · rw [decodeText_of_plainDots (n := 2) htwo] at hread
    exact h.two_dots (Utf8.encode_inj (b := ['.', '.']) hread.symm)

theorem mem_joined {sep c : Char} {texts : List (List Char)} (h : c ∈ joined sep texts) :
    c = sep ∨ ∃ text ∈ texts, c ∈ text := by
  induction texts with
  | nil => cases h
  | cons text more ih =>
    cases more with
    | nil => exact Or.inr ⟨text, List.mem_cons_self, h⟩
    | cons next more =>
      rcases List.mem_append.1 h with h | h
      · exact Or.inr ⟨text, List.mem_cons_self, h⟩
      rcases List.mem_cons.1 h with rfl | h
      · exact Or.inl rfl
      · rcases ih h with rfl | ⟨t, ht, hc⟩
        · exact Or.inl rfl
        · exact Or.inr ⟨t, List.mem_cons_of_mem text ht, hc⟩

/-- A mark that no segment may hold is not between segments either. -/
theorem not_mem_joined {texts : List (List Char)} (h : ∀ text ∈ texts, IsSegment text) {d : Char}
    (hd : d ∈ "\\?#\t\n\r".toList) : d ∉ joined '/' texts := by
  have hreserved : "\\?#\t\n\r".toList ⊆ "/\\?#\t\n\r".toList := by decide
  have hslash : '/' ∉ "\\?#\t\n\r".toList := by decide
  intro hmem
  rcases mem_joined hmem with rfl | ⟨text, htext, hmem⟩
  · exact hslash hd
  · exact (h text htext).not_mem (hreserved hd) hmem

/-- In a path of such segments nothing is resolved, and each segment is escaped. -/
theorem pathOf_joined {texts : List (List Char)} (hne : texts ≠ [])
    (h : ∀ text ∈ texts, IsSegment text) :
    pathOf ('/' :: joined '/' texts) = '/' :: joined '/' (texts.map (encode keepInPath)) := by
  have hsegments : segments (joined '/' texts) = texts := by
    change pieces '/' (slashed (joined '/' texts)) = texts
    rw [slashed_of_not_mem (not_mem_joined h (by decide))]
    exact pieces_joined hne fun text htext => (h text htext).not_mem (by decide)
  have hresolved : resolve [] (texts.map (encode keepInPath)) = texts.map (encode keepInPath) := by
    refine resolve_of_not_isDots fun segment hsegment => ?_
    obtain ⟨text, htext, rfl⟩ := List.mem_map.1 hsegment
    exact (h text htext).not_isDots
  rw [pathOf_cons_slash, hsegments, hresolved]

/-- The text between the host and its end, if it is a path of such segments. -/
theorem tailOf_joined {texts : List (List Char)} (hne : texts ≠ [])
    (h : ∀ text ∈ texts, IsSegment text) :
    tailOf ('/' :: joined '/' texts) = ('/' :: joined '/' (texts.map (encode keepInPath)), none) := by
  have hsent : ('/' :: joined '/' texts).takeWhile (· != '#') = '/' :: joined '/' texts := by
    refine List.takeWhile_eq_self_iff.2 (List.forall_mem_cons.2 ⟨rfl, fun c hc => bne_iff_ne.2 ?_⟩)
    rintro rfl
    exact not_mem_joined h (by decide) hc
  have hquery : cutFirst? '?' ('/' :: joined '/' texts) = none :=
    cutFirst?_eq_none_iff.2
      (List.not_mem_cons_of_ne_of_not_mem (by decide) (not_mem_joined h (by decide)))
  rw [tailOf]
  simp only [hsent, hquery, pathOf_joined hne h]

end Web.Url

end VariantSearch
