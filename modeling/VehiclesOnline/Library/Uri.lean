import Mathlib.Data.List.TakeWhile
import VehiclesOnline.Library.Ascii
import VehiclesOnline.Library.Utf8

/-! # Uniform resource identifiers

References by the generic grammar, as `java.net.URI` reads them: visible characters beyond ASCII
stand wherever escapes do, and an authority that names no server is that of a registry. -/

/-- The parts of a reference. Without a path it is of no hierarchy. -/
structure Uri where
  scheme : Option (List Char) := none
  authority : Option (List Char) := none
  path : Option (List Char) := none
  query : Option (List Char) := none
  fragment : Option (List Char) := none
  deriving DecidableEq, Repr

namespace Uri

/-! ## Characters -/

def isHex (c : Char) : Bool :=
  c.isDigit || ['a', 'b', 'c', 'd', 'e', 'f', 'A', 'B', 'C', 'D', 'E', 'F'].contains c

def isUnreserved (c : Char) : Bool :=
  c.isAlphanum || ['-', '_', '.', '!', '~', '*', '\x27', '(', ')'].contains c

def isUric (c : Char) : Bool :=
  isUnreserved c || [';', '/', '?', ':', '@', '&', '=', '+', '$', ',', '[', ']'].contains c

def isPathChar (c : Char) : Bool :=
  isUnreserved c || [':', '@', '&', '=', '+', '$', ',', ';', '/'].contains c

def isRegNameChar (c : Char) : Bool :=
  isUnreserved c || ['$', ',', ';', ':', '@', '&', '=', '+'].contains c

def isUserInfoChar (c : Char) : Bool :=
  isUnreserved c || [';', ':', '&', '=', '+', '$', ','].contains c

def isSchemeChar (c : Char) : Bool := c.isAlphanum || ['+', '-', '.'].contains c

/-- `Character.isSpaceChar`, beyond ASCII. -/
def isSpaceChar (c : Char) : Bool :=
  [0xA0, 0x1680, 0x180E, 0x2028, 0x2029, 0x202F, 0x205F, 0x3000].contains c.toNat ||
    decide (0x2000 ≤ c.toNat ∧ c.toNat ≤ 0x200A)

/-- Neither of ASCII nor a control character nor a space. -/
def isOther (c : Char) : Bool := decide (0xA0 ≤ c.toNat) && !isSpaceChar c

/-- Characters of a class, escaped octets and other characters. -/
def allowed (legal : Char → Bool) : List Char → Bool
  | [] => true
  | '%' :: high :: low :: text => isHex high && isHex low && allowed legal text
  | c :: text => (legal c || isOther c) && allowed legal text

/-! ## Parts -/

section Parts

variable (stops text : List Char)

/-- What stands before the first of the stops. -/
def upTo : List Char := text.takeWhile fun c => !stops.contains c

def beyond : List Char := text.dropWhile fun c => !stops.contains c

end Parts

def isScheme : List Char → Bool
  | [] => false
  | c :: text => c.isAlpha && text.all isSchemeChar

/-- A decimal number that fits an octet. -/
def isOctet (text : List Char) : Bool :=
  decide (text ≠ []) && text.all Char.isDigit && decide (Nat.ofDigitChars 10 text 0 ≤ 255)

def isIpv4Address (text : List Char) : Bool :=
  (text.splitOn '.').length == 4 && (text.splitOn '.').all isOctet

def isHexGroup (text : List Char) : Bool :=
  decide (text ≠ [] ∧ text.length ≤ 4) && text.all isHex

/-- The octets of groups, the last of which may be an address of the older version. -/
def groupOctets (ipv4Last : Bool) : List (List Char) → Option ℕ
  | [] => none
  | [last] =>
      if isHexGroup last then some 2
      else if ipv4Last && isIpv4Address last then some 4
      else none
  | group :: groups =>
      if isHexGroup group then (groupOctets ipv4Last groups).map (· + 2) else none

/-- The parts before and after the first two colons in a row. -/
def splitZeros : List Char → Option (List Char × List Char)
  | ':' :: ':' :: text => some ([], text)
  | c :: text => (splitZeros text).map fun (front, back) => (c :: front, back)
  | [] => none

/-- Sixteen octets, or fewer around two colons that stand for zeros. -/
def isIpv6Address (text : List Char) : Bool :=
  let octets (ipv4Last : Bool) (part : List Char) : Option ℕ :=
    if part = [] then some 0 else groupOctets ipv4Last (part.splitOn ':')
  match splitZeros text with
  | none => octets true text == some 16
  | some (front, back) =>
      match octets false front, octets true back with
      | some m, some n => decide (m + n < 16)
      | _, _ => false

/-- What stands between the brackets of a host: an address, and its scope behind a percent sign. -/
def isIpv6Reference (text : List Char) : Bool :=
  isIpv6Address (upTo ['%'] text) &&
    match beyond ['%'] text with
    | [] => true
    | _ :: scope => decide (scope ≠ []) && scope.all Char.isAlphanum

def isPort : List Char → Bool
  | [] => true
  | ':' :: port => port.all Char.isDigit && decide (Nat.ofDigitChars 10 port 0 < 2 ^ 31)
  | _ => false

/-- The address of a host in brackets, behind the user and in front of the port. Hosts of other
names make authorities of registries as well. -/
def isServer (authority : List Char) : Bool :=
  let hostPort :=
    match beyond ['@'] authority with
    | [] => authority
    | _ :: rest => rest
  let userInfo := if '@' ∈ authority then upTo ['@'] authority else []
  allowed isUserInfoChar userInfo &&
    match hostPort with
    | '[' :: rest =>
        match beyond [']'] rest with
        | [] => false
        | _ :: port => isIpv6Reference (upTo [']'] rest) && isPort port
    | _ => false

def isAuthority (authority : List Char) : Bool :=
  allowed isRegNameChar authority || isServer authority

/-! ## The parser -/

def parseFragment : List Char → Option (Option (List Char))
  | [] => some none
  | '#' :: fragment => if allowed isUric fragment then some (some fragment) else none
  | _ => none

/-- The path and what follows it. -/
def parsePath (text : List Char) : Option Uri :=
  let path := upTo ['?', '#'] text
  if allowed isPathChar path then
    match beyond ['?', '#'] text with
    | '?' :: rest =>
        let query := upTo ['#'] rest
        if allowed isUric query then
          (parseFragment (beyond ['#'] rest)).map fun fragment =>
            { path := some path, query := some query, fragment := fragment }
        else none
    | rest =>
        (parseFragment rest).map fun fragment => { path := some path, fragment := fragment }
  else none

/-- An empty authority has to be followed by something. -/
def parseHierarchical (text : List Char) : Option Uri :=
  match text with
  | '/' :: '/' :: rest =>
      let authority := upTo ['/', '?', '#'] rest
      let tail := beyond ['/', '?', '#'] rest
      if authority = [] then if tail = [] then none else parsePath tail
      else if isAuthority authority then
        (parsePath tail).map fun uri => { uri with authority := some authority }
      else none
  | _ => parsePath text

def parseSpecificPart (text : List Char) : Option Uri :=
  let part := upTo ['#'] text
  if part ≠ [] ∧ allowed isUric part then
    (parseFragment (beyond ['#'] text)).map fun fragment => { fragment := fragment }
  else none

/-- The constructor, without a value where it raises. -/
def parse (text : List Char) : Option Uri :=
  match beyond [':', '/', '?', '#'] text with
  | ':' :: rest =>
      let scheme := upTo [':', '/', '?', '#'] text
      if isScheme scheme then
        (if rest.head? = some '/' then parseHierarchical rest else parseSpecificPart rest).map
          fun uri => { uri with scheme := some scheme }
      else none
  | _ => parseHierarchical text

/-! ## The grammar -/

/-- Characters that are legal, escaped octets and other characters. -/
inductive Part (legal : Char → Bool) : List Char → Prop
  | nil : Part legal []
  | char {c : Char} {text : List Char} (hc : legal c = true ∨ isOther c = true)
      (htext : Part legal text) : Part legal (c :: text)
  | escape {high low : Char} {text : List Char} (hhigh : isHex high = true)
      (hlow : isHex low = true) (htext : Part legal text) : Part legal ('%' :: high :: low :: text)

/-- A part that may be left out, behind its mark. -/
def following (mark : Char) : Option (List Char) → List Char
  | none => []
  | some part => mark :: part

/-- A text that starts with one of the characters, or is empty. -/
def StartsIn (stops text : List Char) : Prop := ∀ c ∈ text.head?, c ∈ stops

inductive Path : List Char → Prop
  | intro {path : List Char} {query fragment : Option (List Char)}
      (hpath : Part isPathChar path) (hquery : ∀ part ∈ query, Part isUric part)
      (hfragment : ∀ part ∈ fragment, Part isUric part) :
      Path (path ++ (following '?' query ++ following '#' fragment))

inductive Hierarchical : List Char → Prop
  | net {authority tail : List Char} (hne : authority ≠ [])
      (hclear : ∀ c ∈ authority, c ∉ ['/', '?', '#']) (hauthority : isAuthority authority = true)
      (hstarts : StartsIn ['/', '?', '#'] tail) (htail : Path tail) :
      Hierarchical ('/' :: '/' :: (authority ++ tail))
  | emptyAuthority {tail : List Char} (hne : tail ≠ []) (hstarts : StartsIn ['/', '?', '#'] tail)
      (htail : Path tail) : Hierarchical ('/' :: '/' :: tail)
  | path {text : List Char} (hslash : ¬ ['/', '/'] <+: text) (htext : Path text) :
      Hierarchical text

inductive Reference : List Char → Prop
  | hierarchical {scheme text : List Char} (hscheme : isScheme scheme = true)
      (hslash : text.head? = some '/') (htext : Hierarchical text) :
      Reference (scheme ++ ':' :: text)
  | specific {scheme part : List Char} {fragment : Option (List Char)}
      (hscheme : isScheme scheme = true) (hne : part ≠ []) (hslash : part.head? ≠ some '/')
      (hpart : Part isUric part) (hfragment : ∀ part ∈ fragment, Part isUric part) :
      Reference (scheme ++ ':' :: (part ++ following '#' fragment))
  | relative {text : List Char}
      (hcolon : (beyond [':', '/', '?', '#'] text).head? ≠ some ':')
      (htext : Hierarchical text) : Reference text

/-! ### Parts -/

section Cuts

variable {stops front rest text : List Char}

theorem startsIn_beyond (stops text : List Char) : StartsIn stops (beyond stops text) := by
  intro c hc
  have hhead := List.head?_dropWhile_not (fun c => !stops.contains c) text
  rw [← beyond, Option.mem_def.mp hc] at hhead
  simpa using hhead

theorem not_mem_of_mem_upTo {c : Char} (h : c ∈ upTo stops text) : c ∉ stops := by
  simpa using List.mem_takeWhile_imp h

@[simp] theorem upTo_append_beyond (stops text : List Char) :
    upTo stops text ++ beyond stops text = text := List.takeWhile_append_dropWhile

theorem upTo_append (hclear : ∀ c ∈ front, c ∉ stops) (hstarts : StartsIn stops rest) :
    upTo stops (front ++ rest) = front := by
  rw [upTo, List.takeWhile_append_of_pos (by simpa using hclear)]
  cases rest with
  | nil => simp
  | cons c rest =>
      have hc : c ∈ stops := hstarts c rfl
      simp [hc]

theorem beyond_append (hclear : ∀ c ∈ front, c ∉ stops) (hstarts : StartsIn stops rest) :
    beyond stops (front ++ rest) = rest := by
  rw [beyond, List.dropWhile_append_of_pos (by simpa using hclear)]
  cases rest with
  | nil => simp
  | cons c rest =>
      have hc : c ∈ stops := hstarts c rfl
      simp [hc]

end Cuts

section Parts

variable {legal : Char → Bool} {text : List Char}

theorem allowed_iff (hlegal : legal '%' = false) : allowed legal text = true ↔ Part legal text := by
  constructor
  · intro h
    fun_induction allowed legal text with
    | case1 => exact .nil
    | case2 high low text ih =>
        simp only [Bool.and_eq_true] at h
        exact .escape h.1.1 h.1.2 (ih h.2)
    | case3 c text hescape ih =>
        simp only [Bool.and_eq_true, Bool.or_eq_true] at h
        exact .char h.1 (ih h.2)
  · intro h
    induction h with
    | nil => rfl
    | @char c text hc htext ih =>
        have hne : c ≠ '%' := by
          rintro rfl
          rw [hlegal] at hc
          exact absurd hc (by decide)
        rw [allowed]
        · simpa [ih] using hc
        · intro high low rest hcons
          exact absurd hcons hne
    | escape hhigh hlow htext ih => rw [allowed, hhigh, hlow, ih]; rfl

theorem Part.append {front : List Char} (hfront : Part legal front) (h : Part legal text) :
    Part legal (front ++ text) := by
  induction hfront with
  | nil => exact h
  | char hc htext ih => exact .char hc ih
  | escape hhigh hlow htext ih => exact .escape hhigh hlow ih

theorem Part.not_mem {c : Char} (h : Part legal text) (hc : legal c = false)
    (hother : isOther c = false) (hhex : isHex c = false) (hpercent : c ≠ '%') : c ∉ text := by
  induction h with
  | nil => exact List.not_mem_nil
  | @char d text hd htext ih =>
      rw [List.mem_cons, not_or]
      refine ⟨?_, ih⟩
      rintro rfl
      simp [hc, hother] at hd
  | @escape high low text hhigh hlow htext ih =>
      have hne : ∀ {d}, isHex d = true → c ≠ d := by
        rintro d hd rfl
        rw [hhex] at hd
        cases hd
      simp [hpercent, hne hhigh, hne hlow, ih]

theorem Part.clear {stops : List Char} (h : Part legal text)
    (hstops : (stops.all fun c => !legal c && !isOther c && !isHex c && c != '%') = true) :
    ∀ c ∈ text, c ∉ stops := by
  intro c hc hstop
  have hmark := List.all_eq_true.mp hstops c hstop
  simp only [Bool.and_eq_true, Bool.not_eq_true', bne_iff_ne] at hmark
  obtain ⟨⟨⟨hlegal, hother⟩, hhex⟩, hpercent⟩ := hmark
  exact h.not_mem hlegal hother hhex hpercent hc

theorem Part.uric_clear (h : Part isUric text) : ∀ c ∈ text, c ∉ ['#'] := h.clear rfl

theorem Part.pathChar_clear (h : Part isPathChar text) : ∀ c ∈ text, c ∉ ['?', '#'] := h.clear rfl

theorem allowed_isUric_iff : allowed isUric text = true ↔ Part isUric text := allowed_iff rfl

theorem allowed_isPathChar_iff : allowed isPathChar text = true ↔ Part isPathChar text :=
  allowed_iff rfl

end Parts

/-! ### The parser accepts the grammar -/

theorem startsIn_following (mark : Char) (part : Option (List Char)) :
    StartsIn [mark] (following mark part) := by
  intro c hc
  cases part with
  | none => cases hc
  | some part => simpa [following, eq_comm] using hc

theorem isSome_parseFragment {text : List Char} :
    (parseFragment text).isSome = true ↔
      ∃ fragment, (∀ part ∈ fragment, Part isUric part) ∧ text = following '#' fragment := by
  fun_cases parseFragment text with
  | case1 => exact iff_of_true rfl ⟨none, by simp, rfl⟩
  | case2 fragment h =>
      refine iff_of_true rfl ⟨some fragment, ?_, rfl⟩
      simpa [allowed_isUric_iff] using h
  | case3 fragment h =>
      refine iff_of_false Bool.false_ne_true ?_
      rintro ⟨_ | part, hpart, htext⟩
      · cases htext
      · cases htext
        exact h (allowed_isUric_iff.mpr (hpart _ rfl))
  | case4 text hnil hcons =>
      refine iff_of_false Bool.false_ne_true ?_
      rintro ⟨_ | part, hpart, htext⟩
      · exact hnil htext
      · exact hcons part htext

theorem startsIn_queryFragment (query fragment : Option (List Char)) :
    StartsIn ['?', '#'] (following '?' query ++ following '#' fragment) := by
  intro c hc
  cases query with
  | none => exact List.mem_cons_of_mem _ (startsIn_following '#' fragment c hc)
  | some query =>
      cases hc
      exact List.mem_cons_self

theorem path_of_isSome {text : List Char} (h : (parsePath text).isSome = true) : Path text := by
  rw [parsePath] at h
  by_cases hpath : allowed isPathChar (upTo ['?', '#'] text) = true
  · rw [if_pos hpath] at h
    rw [allowed_isPathChar_iff] at hpath
    rw [← upTo_append_beyond ['?', '#'] text]
    split at h
    · next rest hrest =>
      by_cases hquery : allowed isUric (upTo ['#'] rest) = true
      · rw [if_pos hquery, Option.isSome_map, isSome_parseFragment] at h
        obtain ⟨fragment, hfragment, hbeyond⟩ := h
        have hsplit : beyond ['?', '#'] text =
            following '?' (some (upTo ['#'] rest)) ++ following '#' fragment := by
          rw [hrest, ← hbeyond, following, List.cons_append, upTo_append_beyond]
        rw [hsplit]
        exact .intro hpath (by simpa using allowed_isUric_iff.mp hquery) hfragment
      · rw [if_neg hquery] at h
        cases h
    · next rest hrest =>
      rw [Option.isSome_map, isSome_parseFragment] at h
      obtain ⟨fragment, hfragment, hbeyond⟩ := h
      have hnone : following '#' fragment = following '?' none ++ following '#' fragment := rfl
      rw [hbeyond, hnone]
      exact .intro hpath (by simp) hfragment
  · rw [if_neg hpath] at h
    cases h

theorem isSome_of_path {text : List Char} (h : Path text) :
    (parsePath text).isSome = true := by
  obtain @⟨path, query, fragment, hpath, hquery, hfragment⟩ := h
  have hstarts := startsIn_queryFragment query fragment
  rw [parsePath, upTo_append hpath.pathChar_clear hstarts,
    beyond_append hpath.pathChar_clear hstarts, if_pos (allowed_isPathChar_iff.mpr hpath)]
  cases query with
  | none =>
      have h := isSome_parseFragment.mpr ⟨fragment, hfragment, rfl⟩
      cases fragment with
      | none => rfl
      | some fragment =>
          change ((parseFragment (following '#' (some fragment))).map _).isSome = true
          rwa [Option.isSome_map]
  | some query =>
      have hquery := hquery _ rfl
      have hstarts := startsIn_following '#' fragment
      have hmark : following '?' (some query) ++ following '#' fragment =
          '?' :: (query ++ following '#' fragment) := rfl
      rw [hmark]
      simp only [upTo_append hquery.uric_clear hstarts, beyond_append hquery.uric_clear hstarts,
        allowed_isUric_iff.mpr hquery, if_true, Option.isSome_map]
      exact isSome_parseFragment.mpr ⟨fragment, hfragment, rfl⟩

theorem isSome_parsePath {text : List Char} : (parsePath text).isSome = true ↔ Path text :=
  ⟨path_of_isSome, isSome_of_path⟩

theorem hierarchical_of_isSome {text : List Char} (h : (parseHierarchical text).isSome = true) :
    Hierarchical text := by
  rw [parseHierarchical.eq_def] at h
  split at h
  · next rest =>
    have hstarts := startsIn_beyond ['/', '?', '#'] rest
    by_cases hauthority : upTo ['/', '?', '#'] rest = []
    · have hrest : beyond ['/', '?', '#'] rest = rest := by
        have happend := upTo_append_beyond ['/', '?', '#'] rest
        rwa [hauthority, List.nil_append] at happend
      rw [if_pos hauthority] at h
      split at h
      · cases h
      · next hne =>
        rw [hrest] at h hne hstarts
        exact .emptyAuthority hne hstarts (isSome_parsePath.mp h)
    · rw [if_neg hauthority] at h
      split at h
      · next hvalid =>
        rw [Option.isSome_map, isSome_parsePath] at h
        rw [← upTo_append_beyond ['/', '?', '#'] rest]
        exact .net hauthority (fun _ hc => not_mem_of_mem_upTo hc) hvalid hstarts h
      · cases h
  · next hslash =>
    refine .path ?_ (isSome_parsePath.mp h)
    rintro ⟨rest, rfl⟩
    exact hslash rest rfl

theorem isSome_of_hierarchical {text : List Char} (h : Hierarchical text) :
    (parseHierarchical text).isSome = true := by
  cases h with
  | @net authority tail hne hclear hauthority hstarts htail =>
      simp only [parseHierarchical, upTo_append hclear hstarts, beyond_append hclear hstarts,
        if_neg hne, hauthority, if_true, Option.isSome_map]
      exact isSome_parsePath.mpr htail
  | @emptyAuthority tail hne hstarts htail =>
      have hclear : ∀ c ∈ ([] : List Char), c ∉ ['/', '?', '#'] := by simp
      have hup := upTo_append hclear hstarts
      have hbeyond := beyond_append hclear hstarts
      rw [List.nil_append] at hup hbeyond
      simp only [parseHierarchical, hup, hbeyond, if_true, if_neg hne]
      exact isSome_parsePath.mpr htail
  | path hslash htext =>
      rw [parseHierarchical]
      · exact isSome_parsePath.mpr htext
      · rintro rest rfl
        exact hslash ⟨rest, rfl⟩

theorem isSome_parseHierarchical {text : List Char} :
    (parseHierarchical text).isSome = true ↔ Hierarchical text :=
  ⟨hierarchical_of_isSome, isSome_of_hierarchical⟩

theorem isSome_parseSpecificPart {text : List Char} :
    (parseSpecificPart text).isSome = true ↔
      ∃ part fragment, part ≠ [] ∧ Part isUric part ∧
        (∀ part ∈ fragment, Part isUric part) ∧ text = part ++ following '#' fragment := by
  constructor
  · intro h
    rw [parseSpecificPart] at h
    split at h
    · next hpart =>
      rw [Option.isSome_map, isSome_parseFragment] at h
      obtain ⟨fragment, hfragment, hbeyond⟩ := h
      refine ⟨_, fragment, hpart.1, allowed_isUric_iff.mp hpart.2, hfragment, ?_⟩
      rw [← hbeyond, upTo_append_beyond]
    · cases h
  · rintro ⟨part, fragment, hne, hpart, hfragment, rfl⟩
    have hstarts := startsIn_following '#' fragment
    rw [parseSpecificPart, upTo_append hpart.uric_clear hstarts,
      beyond_append hpart.uric_clear hstarts, if_pos ⟨hne, allowed_isUric_iff.mpr hpart⟩,
      Option.isSome_map]
    exact isSome_parseFragment.mpr ⟨fragment, hfragment, rfl⟩

theorem isScheme_clear {scheme : List Char} (h : isScheme scheme = true) :
    ∀ c ∈ scheme, c ∉ [':', '/', '?', '#'] := by
  have hstops : ([':', '/', '?', '#'].all fun d => !d.isAlpha && !isSchemeChar d) = true := rfl
  cases scheme with
  | nil => cases h
  | cons c text =>
      rw [isScheme, Bool.and_eq_true, List.all_eq_true] at h
      intro d hd hstop
      have hmark := List.all_eq_true.mp hstops d hstop
      simp only [Bool.and_eq_true, Bool.not_eq_true'] at hmark
      obtain ⟨halpha, hscheme⟩ := hmark
      rcases List.mem_cons.mp hd with rfl | hd
      · rw [h.1] at halpha
        cases halpha
      · rw [h.2 d hd] at hscheme
        cases hscheme

theorem reference_of_isSome {text : List Char} (h : (parse text).isSome = true) :
    Reference text := by
  rw [parse] at h
  split at h
  · next rest hrest =>
    by_cases hscheme : isScheme (upTo [':', '/', '?', '#'] text) = true
    · rw [if_pos hscheme, Option.isSome_map] at h
      rw [← upTo_append_beyond [':', '/', '?', '#'] text, hrest]
      by_cases hslash : rest.head? = some '/'
      · rw [if_pos hslash, isSome_parseHierarchical] at h
        exact .hierarchical hscheme hslash h
      · rw [if_neg hslash, isSome_parseSpecificPart] at h
        obtain ⟨part, fragment, hne, hpart, hfragment, rfl⟩ := h
        have hhead : part.head? ≠ some '/' := by
          intro hhead
          rw [List.head?_append, hhead] at hslash
          exact hslash rfl
        exact .specific hscheme hne hhead hpart hfragment
    · rw [if_neg hscheme] at h
      cases h
  · next hcolon =>
    refine .relative ?_ (isSome_parseHierarchical.mp h)
    intro hhead
    obtain ⟨rest, hrest⟩ := List.head?_eq_some_iff.mp hhead
    exact hcolon rest hrest

theorem isSome_of_reference {text : List Char} (h : Reference text) :
    (parse text).isSome = true := by
  have hcolon : ∀ {rest}, StartsIn [':', '/', '?', '#'] (':' :: rest) := by
    intro rest c hc
    cases hc
    exact List.mem_cons_self
  cases h with
  | hierarchical hscheme hslash htext =>
      have hclear := isScheme_clear hscheme
      simp only [parse, upTo_append hclear hcolon, beyond_append hclear hcolon, hscheme, hslash,
        if_true, Option.isSome_map]
      exact isSome_parseHierarchical.mpr htext
  | @specific scheme part fragment hscheme hne hslash hpart hfragment =>
      have hclear := isScheme_clear hscheme
      have hhead : (part ++ following '#' fragment).head? ≠ some '/' := by
        rwa [List.head?_append_of_ne_nil _ hne]
      simp only [parse, upTo_append hclear hcolon, beyond_append hclear hcolon, hscheme,
        if_neg hhead, if_true, Option.isSome_map]
      exact isSome_parseSpecificPart.mpr ⟨part, fragment, hne, hpart, hfragment, rfl⟩
  | relative hcolon htext =>
      rw [parse]
      split
      · next rest hrest =>
        rw [hrest] at hcolon
        exact absurd rfl hcolon
      · exact isSome_parseHierarchical.mpr htext

/-- The constructor raises on the texts outside the grammar, and on no others. -/
theorem isSome_parse {text : List Char} : (parse text).isSome = true ↔ Reference text :=
  ⟨reference_of_isSome, isSome_of_reference⟩

theorem reference_iff_path {text : List Char} (hslash : text.head? = some '/')
    (hnet : ¬ ['/', '/'] <+: text) : Reference text ↔ Path text := by
  have hscheme : ∀ {scheme rest}, isScheme scheme = true → (scheme ++ rest).head? ≠ some '/' := by
    intro scheme rest hscheme hhead
    cases scheme with
    | nil => cases hscheme
    | cons c scheme =>
        cases hhead
        exact isScheme_clear hscheme '/' List.mem_cons_self (by decide)
  constructor
  · intro h
    cases h with
    | hierarchical hvalid => exact absurd hslash (hscheme hvalid)
    | specific hvalid => exact absurd hslash (hscheme hvalid)
    | relative hcolon htext =>
        cases htext with
        | net => exact absurd (List.prefix_append ['/', '/'] _) hnet
        | emptyAuthority => exact absurd (List.prefix_append ['/', '/'] _) hnet
        | path hnet htext => exact htext
  · intro h
    refine .relative ?_ (.path hnet h)
    obtain ⟨rest, rfl⟩ := List.head?_eq_some_iff.mp hslash
    simp [beyond]

theorem path_of_parsePath {text : List Char} {uri : Uri} (h : parsePath text = some uri) :
    uri.path = some (upTo ['?', '#'] text) := by
  rw [parsePath] at h
  dsimp only at h
  split at h
  · split at h
    · split at h
      · obtain ⟨fragment, -, rfl⟩ := Option.map_eq_some_iff.mp h
        rfl
      · cases h
    · obtain ⟨fragment, -, rfl⟩ := Option.map_eq_some_iff.mp h
      rfl
  · cases h

/-- What starts with one slash has a path, up to the query or the fragment. -/
theorem path_of_parse {text : List Char} {uri : Uri} (hslash : text.head? = some '/')
    (hnet : ¬ ['/', '/'] <+: text) (h : parse text = some uri) :
    uri.path = some (upTo ['?', '#'] text) := by
  obtain ⟨rest, rfl⟩ := List.head?_eq_some_iff.mp hslash
  have hbeyond : beyond [':', '/', '?', '#'] ('/' :: rest) = '/' :: rest := by simp [beyond]
  have hparse : parse ('/' :: rest) = parsePath ('/' :: rest) := by
    rw [parse, hbeyond, parseHierarchical]
    · rfl
    · intro rest' htext
      rw [htext] at hnet
      exact hnet (List.prefix_append ['/', '/'] rest')
  rw [hparse] at h
  exact path_of_parsePath h

/-- A path and a query can be told apart. -/
theorem path_following_iff {path : List Char} {query : Option (List Char)}
    (hpath : ∀ c ∈ path, c ∉ ['?', '#']) (hquery : ∀ part ∈ query, '#' ∉ part) :
    Path (path ++ following '?' query) ↔
      Part isPathChar path ∧ ∀ part ∈ query, Part isUric part := by
  have hnone : following '?' query = following '?' query ++ following '#' none :=
    (List.append_nil _).symm
  rw [hnone]
  constructor
  · intro h
    generalize htext : path ++ (following '?' query ++ following '#' none) = text at h
    cases h with
    | @intro path' query' fragment hpath' hquery' hfragment =>
        have hstarts := startsIn_queryFragment query none
        have hstarts' := startsIn_queryFragment query' fragment
        have hup := congrArg (upTo ['?', '#']) htext
        rw [upTo_append hpath hstarts, upTo_append hpath'.pathChar_clear hstarts'] at hup
        have hrest := congrArg (beyond ['?', '#']) htext
        rw [beyond_append hpath hstarts, beyond_append hpath'.pathChar_clear hstarts', ← hnone]
          at hrest
        refine ⟨hup ▸ hpath', ?_⟩
        intro part hpart
        obtain rfl := Option.mem_def.mp hpart
        cases query' with
        | none => cases fragment <;> simp [following] at hrest
        | some query' =>
            cases fragment with
            | none =>
                obtain rfl : part = query' := by simpa [following] using hrest
                exact hquery' part rfl
            | some fragment =>
                have hmark : '#' ∈ part := by
                  obtain rfl : part = query' ++ '#' :: fragment := by
                    simpa [following] using hrest
                  simp
                exact absurd hmark (hquery part rfl)
  · rintro ⟨hpath', hquery'⟩
    exact .intro hpath' hquery' (by simp)

/-- What a browser requests of a server is a reference if the path and the query have legal
characters and escapes. -/
theorem reference_path_iff {path : List Char} {query : Option (List Char)}
    (hslash : path.head? = some '/') (hnet : ¬ ['/', '/'] <+: path)
    (hpath : ∀ c ∈ path, c ∉ ['?', '#']) (hquery : ∀ part ∈ query, '#' ∉ part) :
    Reference (path ++ following '?' query) ↔
      Part isPathChar path ∧ ∀ part ∈ query, Part isUric part := by
  have hhead : (path ++ following '?' query).head? = some '/' := by
    rw [List.head?_append, hslash]
    rfl
  have hnet' : ¬ ['/', '/'] <+: path ++ following '?' query := by
    obtain ⟨rest, rfl⟩ := List.head?_eq_some_iff.mp hslash
    cases rest with
    | nil =>
        cases query with
        | none => exact hnet
        | some query => simp [following]
    | cons c rest => simpa [following] using hnet
  rw [reference_iff_path hhead hnet', path_following_iff hpath hquery]

/-! ## Escapes -/

def hexValue (c : Char) : ℕ :=
  if c.isDigit then c.toNat - 0x30 else c.toUpper.toNat - 0x37

/-- Octets that were escaped in a row are one text. -/
def decodeFrom (octets : List UInt8) : List Char → List Char
  | [] => (Utf8.decode octets).toList
  | '%' :: high :: low :: text =>
      decodeFrom (octets ++ [UInt8.ofNat (16 * hexValue high + hexValue low)]) text
  | c :: text => (Utf8.decode octets).toList ++ c :: decodeFrom [] text

def getPath (uri : Uri) : Option String :=
  uri.path.map fun path => String.ofList (decodeFrom [] path)

/-- A path without escapes is read as it stands. -/
theorem decodeFrom_of_not_mem {text : List Char} (h : '%' ∉ text) : decodeFrom [] text = text := by
  induction text with
  | nil => rfl
  | cons c text ih =>
      obtain ⟨hc, htext⟩ := not_or.mp fun hmem => h (List.mem_cons.mpr hmem)
      rw [decodeFrom, ih htext]
      · rfl
      · rintro high low rest rfl
        exact absurd rfl hc

end Uri
