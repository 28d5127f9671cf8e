import Mathlib.Data.Bool.AllAny
import Mathlib.Data.List.TakeWhile
import Woodgate.Go.Strings

/-!
# Go's `net/url`

`url.Parse` and `URL.String`, over the bytes of a text. Which hosts an authority may name depends
on the release and is a parameter. `string_graphic` is what a caller of both relies on: a URL
without an opaque part and without a query is written with graphic ASCII characters only.
-/

namespace Woodgate.Go.Url

/-- A Go string. -/
abbrev Bytes := List UInt8

def byte (c : Char) : UInt8 := UInt8.ofNat c.toNat

def bytes (s : String) : Bytes := s.toList.map byte

/-- `url.Userinfo` -/
structure Userinfo where
  username : Bytes
  password : Option Bytes := none
  deriving DecidableEq, Repr

/-- `url.URL` -/
structure URL where
  scheme : Bytes := []
  opaquePart : Bytes := []
  user : Option Userinfo := none
  host : Bytes := []
  path : Bytes := []
  rawPath : Bytes := []
  omitHost : Bool := false
  forceQuery : Bool := false
  rawQuery : Bytes := []
  fragment : Bytes := []
  rawFragment : Bytes := []
  deriving DecidableEq, Repr

section Escaping

/-- The part of a URL that an escape is for. -/
inductive Encoding where
  | encodePath
  | encodeHost
  | encodeUserPassword
  | encodeFragment
  deriving DecidableEq, Repr

def isLetter (b : UInt8) : Bool := (byte 'a' ≤ b && b ≤ byte 'z') || (byte 'A' ≤ b && b ≤ byte 'Z')

def isDigit (b : UInt8) : Bool := byte '0' ≤ b && b ≤ byte '9'

def isHex (b : UInt8) : Bool := isDigit b || (byte 'a' ≤ b && b ≤ byte 'f') || (byte 'A' ≤ b && b ≤ byte 'F')

def unhex (b : UInt8) : UInt8 :=
  if isDigit b then b - byte '0' else if byte 'a' ≤ b then b - byte 'a' + 10 else b - byte 'A' + 10

def shouldEscape (b : UInt8) (mode : Encoding) : Bool :=
  if isLetter b || isDigit b then false
  else if mode = .encodeHost && (bytes "!$&'()*+,;=:[]<>\"").contains b then false
  else if (bytes "-_.~").contains b then false
  else if (bytes "$&+,/:;=?@").contains b then
    match mode with
    | .encodePath => b = byte '?'
    | .encodeUserPassword => (bytes "@/?:").contains b
    | .encodeFragment => false
    | .encodeHost => true
  else if mode = .encodeFragment && (bytes "!()*").contains b then false
  else true

def upperHex (n : UInt8) : UInt8 := if n < 10 then byte '0' + n else byte 'A' + (n - 10)

def escape (mode : Encoding) (s : Bytes) : Bytes :=
  s.flatMap fun b => if shouldEscape b mode then [byte '%', upperHex (b >>> 4), upperHex (b &&& 15)] else [b]

/-- `unescape`, for a part other than the host -/
def unescape : Bytes → Option Bytes
  | [] => some []
  | b :: s =>
    if b = byte '%' then
      match s with
      | high :: low :: rest =>
        if isHex high && isHex low then (unescape rest).map ((unhex high <<< 4 ||| unhex low) :: ·) else none
      | _ => none
    else (unescape s).map (b :: ·)

def validEncoded (s : Bytes) (mode : Encoding) : Bool :=
  s.all fun b => (bytes "!$&'()*+,;=:@[]%").contains b || !shouldEscape b mode

end Escaping

section Parse

/-- `strings.Cut`, without what tells whether there was a cut. -/
def cut (sep : UInt8) (s : Bytes) : Bytes × Bytes :=
  (s.takeWhile (· ≠ sep), (s.dropWhile (· ≠ sep)).drop 1)

def isSchemeByte (b : UInt8) : Bool := isLetter b || isDigit b || (bytes "+-.").contains b

def getScheme (rawURL : Bytes) : Option (Bytes × Bytes) :=
  let name := rawURL.takeWhile isSchemeByte
  match rawURL.dropWhile isSchemeByte with
  | [] => some ([], rawURL)
  | b :: rest =>
    if b = byte ':' then
      match name with
      | [] => none
      | first :: _ => if isLetter first then some (name, rest) else some ([], rawURL)
    else some ([], rawURL)

def toLower (b : UInt8) : UInt8 := if byte 'A' ≤ b && b ≤ byte 'Z' then b + 32 else b

def setPath (url : URL) (p : Bytes) : Option URL :=
  (unescape p).map fun path => { url with path, rawPath := if p = escape .encodePath path then [] else p }

def setFragment (url : URL) (f : Bytes) : Option URL :=
  (unescape f).map fun fragment =>
    { url with fragment, rawFragment := if f = escape .encodeFragment fragment then [] else f }

/-- What `parseAuthority` makes of a scheme and an authority. -/
abbrev Authorities := Bytes → Bytes → Option (Option Userinfo × Bytes)

/-- Whether the query is empty but there, what stands before it, and the query. -/
def splitQuery (rest : Bytes) : Bool × Bytes × Bytes :=
  if rest.getLast? = some (byte '?') && rest.count (byte '?') = 1 then (true, rest.dropLast, [])
  else (false, cut (byte '?') rest)

/-- `parse` after the scheme and the query. -/
def parseHier (authorities : Authorities) (url : URL) (rest : Bytes) : Option URL :=
  if rest.head? ≠ some (byte '/') && url.scheme ≠ [] then some { url with opaquePart := rest }
  else if rest.head? ≠ some (byte '/') && (cut (byte '/') rest).1.contains (byte ':') then none
  else if (url.scheme ≠ [] || !(bytes "///").isPrefixOf rest) && (bytes "//").isPrefixOf rest then do
    let authority := (rest.drop 2).takeWhile (· ≠ byte '/')
    let (user, host) ← authorities url.scheme authority
    setPath { url with user, host } (rest.drop (2 + authority.length))
  else setPath { url with omitHost := url.scheme ≠ [] && rest.head? = some (byte '/') } rest

/-- `parse`, of a URL without its fragment. -/
def parseURL (authorities : Authorities) (rawURL : Bytes) : Option URL :=
  if rawURL.any fun b => decide (b < 0x20 ∨ b = 0x7F) then none
  else if rawURL = bytes "*" then some { path := bytes "*" }
  else do
    let (scheme, rest) ← getScheme rawURL
    let (forceQuery, rest, rawQuery) := splitQuery rest
    parseHier authorities { scheme := scheme.map toLower, forceQuery, rawQuery } rest

/-- `url.Parse` -/
def parse (authorities : Authorities) (rawURL : Bytes) : Option URL := do
  let (u, frag) := cut (byte '#') rawURL
  let url ← parseURL authorities u
  if frag = [] then some url else setFragment url frag

end Parse

section Write

/-- `Userinfo.String`; without a name and a password it is empty, also where an empty password is set. -/
def Userinfo.string (user : Userinfo) : Bytes :=
  if user.username ≠ [] || user.password.getD [] ≠ [] then
    escape .encodeUserPassword user.username ++ match user.password with
      | none => []
      | some password => byte ':' :: escape .encodeUserPassword password
  else []

/-- `EscapedPath` and `EscapedFragment` -/
def escaped (mode : Encoding) (text raw : Bytes) : Bytes :=
  if raw ≠ [] && validEncoded raw mode && unescape raw = some text then raw
  else if mode = .encodePath && text = bytes "*" then bytes "*"
  else escape mode text

/-- The scheme, the user and the host. -/
def URL.authority (url : URL) : Bytes :=
  if url.scheme = [] && url.host = [] && url.user.isNone then []
  else if url.omitHost && url.host = [] && url.user.isNone then []
  else
    (if url.host ≠ [] || url.path ≠ [] || url.user.isSome then bytes "//" else []) ++
      (match url.user with
        | none => []
        | some user => user.string ++ [byte '@']) ++
      escape .encodeHost url.host

/-- The hierarchical part. -/
def URL.hier (url : URL) : Bytes :=
  let path := escaped .encodePath url.path url.rawPath
  let slash := if path ≠ [] && path.head? ≠ some (byte '/') && url.host ≠ [] then [byte '/'] else []
  let dot := if url.scheme = [] && url.authority ++ slash = [] && (cut (byte '/') path).1.contains (byte ':') then bytes "./" else []
  url.authority ++ slash ++ dot ++ path

/-- `URL.String` -/
def URL.string (url : URL) : Bytes :=
  (if url.scheme ≠ [] then url.scheme ++ [byte ':'] else []) ++
    (if url.opaquePart ≠ [] then url.opaquePart else url.hier) ++
    (if url.forceQuery || url.rawQuery ≠ [] then byte '?' :: url.rawQuery else []) ++
    (if url.fragment ≠ [] then byte '#' :: escaped .encodeFragment url.fragment url.rawFragment else [])

end Write

section Characters

variable {p : UInt8 → Bool} {mode : Encoding} {s text raw : Bytes}

/-- A character of ASCII that is no space and no control character. -/
def isGraphic (b : UInt8) : Bool := 0x21 ≤ b && b ≤ 0x7E

def allBytes : List UInt8 := (List.range 256).map UInt8.ofNat

theorem mem_allBytes (b : UInt8) : b ∈ allBytes :=
  List.mem_map.2 ⟨b.toNat, List.mem_range.2 b.toNat_lt, UInt8.ofNat_toNat⟩

/-- What a table of all bytes shows holds of every byte. -/
theorem forall_bytes {P : UInt8 → Prop} [DecidablePred P] (table : (allBytes.all fun b => decide (P b)) = true) (b : UInt8) :
    P b :=
  of_decide_eq_true (List.all_eq_true.1 table b (mem_allBytes b))

/-- What is written for every byte has `p`. -/
def Writes (mode : Encoding) (p : UInt8 → Bool) : Bool :=
  p (byte '%') && (bytes "!$&'()*+,;=:@[]%").all p &&
    allBytes.all fun b => (shouldEscape b mode || p b) && p (upperHex (b >>> 4)) && p (upperHex (b &&& 15))

theorem escape_all (writes : Writes mode p = true) {b : UInt8} (mem : b ∈ escape mode s) : p b = true := by
  simp only [Writes, Bool.and_eq_true, List.all_eq_true] at writes
  obtain ⟨⟨percent, _⟩, each⟩ := writes
  obtain ⟨a, _, written⟩ := List.mem_flatMap.1 mem
  obtain ⟨⟨kept, high⟩, low⟩ := each a (mem_allBytes a)
  split at written
  · simp only [List.mem_cons, List.not_mem_nil, or_false] at written
    rcases written with rfl | rfl | rfl
    · exact percent
    · exact high
    · exact low
  · rename_i unescaped
    cases List.mem_singleton.1 written
    simpa [unescaped] using kept

theorem escaped_all (writes : Writes mode p = true) {b : UInt8} (mem : b ∈ escaped mode text raw) : p b = true := by
  unfold escaped at mem
  split at mem
  · rename_i kept
    simp only [Bool.and_eq_true, validEncoded, List.all_eq_true] at kept
    have valid := kept.1.2 b mem
    simp only [Writes, Bool.and_eq_true, List.all_eq_true] at writes
    obtain ⟨⟨_, marks⟩, each⟩ := writes
    rw [Bool.or_eq_true] at valid
    rcases valid with mark | plain
    · exact marks b (by simpa using mark)
    · have own := (each b (mem_allBytes b)).1.1
      have unescaped : shouldEscape b mode = false := by simpa using plain
      simpa [unescaped] using own
  · split at mem
    · simp only [Writes, Bool.and_eq_true, List.all_eq_true] at writes
      exact writes.1.2 b (by cases List.mem_singleton.1 mem; decide)
    · exact escape_all writes mem

end Characters

section Inversion

variable {authorities : Authorities} {url url' : URL} {s u rest scheme : Bytes} {sep b : UInt8}

theorem cut_cons : cut sep (b :: s) = if b = sep then ([], s) else (b :: (cut sep s).1, (cut sep s).2) := by
  by_cases same : b = sep
  · simp [cut, same]
  · simp [cut, same]

theorem cut_of_notMem (none : sep ∉ s) : cut sep s = (s, []) := by
  induction s with
  | nil => rfl
  | cons b s ih =>
    simp only [List.mem_cons, not_or] at none
    rw [cut_cons, if_neg (Ne.symm none.1), ih none.2]

theorem cut_append (none : sep ∉ s) : cut sep (s ++ sep :: rest) = (s, rest) := by
  induction s with
  | nil => simp [cut_cons]
  | cons b s ih =>
    simp only [List.mem_cons, not_or] at none
    rw [List.cons_append, cut_cons, if_neg (Ne.symm none.1), ih none.2]

/-- A text is cut at the first separator, if there is one. -/
theorem cut_cases (sep : UInt8) (s : Bytes) :
    (sep ∉ s ∧ cut sep s = (s, [])) ∨ ∃ before after, s = before ++ sep :: after ∧ sep ∉ before ∧ cut sep s = (before, after) := by
  by_cases mem : sep ∈ s
  · obtain ⟨before, after, rfl, none⟩ := List.eq_append_cons_of_mem mem
    exact .inr ⟨before, after, rfl, none, cut_append none⟩
  · exact .inl ⟨mem, cut_of_notMem mem⟩

/-- Whether a name that `getScheme` finds may be one. -/
def IsScheme (scheme : Bytes) : Prop := (∀ b ∈ scheme, isSchemeByte b = true) ∧ ∃ b ∈ scheme.head?, isLetter b = true

theorem getScheme_append (named : IsScheme scheme) : getScheme (scheme ++ byte ':' :: rest) = some (scheme, rest) := by
  obtain ⟨all, first, head, letter⟩ := named
  have colon : isSchemeByte (byte ':') = false := by decide
  unfold getScheme
  rw [List.takeWhile_append_of_pos all, List.dropWhile_append_of_pos all, List.takeWhile_cons_of_neg (by simp [colon]),
    List.dropWhile_cons_of_neg (by simp [colon]), List.append_nil]
  cases scheme with
  | nil => cases head
  | cons b scheme =>
    cases head
    simp [letter]

theorem getScheme_eq_some (h : getScheme u = some (scheme, rest)) :
    (scheme = [] ∧ rest = u) ∨ (u = scheme ++ byte ':' :: rest ∧ IsScheme scheme) := by
  have whole : u.takeWhile isSchemeByte ++ u.dropWhile isSchemeByte = u := List.takeWhile_append_dropWhile
  unfold getScheme at h
  dsimp only at h
  split at h
  · cases h
    exact .inl ⟨rfl, rfl⟩
  · rename_i b tail dropped
    split at h
    · rename_i colon
      split at h
      · cases h
      · rename_i first name taken
        split at h
        · rename_i letter
          cases h
          right
          rw [dropped, colon] at whole
          refine ⟨whole.symm, fun b mem => List.mem_takeWhile_imp mem, first, ?_, letter⟩
          rw [taken]
          rfl
        · cases h
          exact .inl ⟨rfl, rfl⟩
    · cases h
      exact .inl ⟨rfl, rfl⟩

/-- A question mark makes a query, if only an empty one. -/
theorem splitQuery_mem (mem : byte '?' ∈ rest) : (splitQuery rest).1 = true ∨ (splitQuery rest).2.2 ≠ [] := by
  unfold splitQuery
  split
  · exact .inl rfl
  · rename_i full
    right
    intro empty
    rcases cut_cases (byte '?') rest with ⟨none, _⟩ | ⟨before, after, rfl, none, divided⟩
    · exact none mem
    · dsimp only at empty
      rw [divided] at empty
      dsimp only at empty
      rw [empty] at full
      simp [List.count_eq_zero.2 none] at full

theorem splitQuery_of_notMem (none : byte '?' ∉ rest) : splitQuery rest = (false, rest, []) := by
  unfold splitQuery
  rw [if_neg (by simp [List.count_eq_zero.2 none]), cut_of_notMem none]

theorem parseHier_eq_some (h : parseHier authorities url rest = some url') (bare : url.opaquePart = [] ∧ url.host = []) :
    url'.scheme = url.scheme ∧ url'.forceQuery = url.forceQuery ∧ url'.rawQuery = url.rawQuery ∧
      (url'.opaquePart = [] ∨ url'.opaquePart = rest ∧ rest.head? ≠ some (byte '/') ∧ url.scheme ≠ []) ∧
      (url'.host ≠ [] → rest.head? = some (byte '/')) := by
  unfold parseHier at h
  split at h
  · rename_i rootless
    cases h
    simp only [Bool.and_eq_true, decide_eq_true_eq] at rootless
    exact ⟨rfl, rfl, rfl, .inr ⟨rfl, rootless⟩, fun host => absurd bare.2 host⟩
  split at h
  · cases h
  split at h
  · rename_i slashes
    obtain ⟨⟨user, host⟩, _, h⟩ := Option.bind_eq_some_iff.1 h
    obtain ⟨path, _, rfl⟩ := Option.map_eq_some_iff.1 h
    refine ⟨rfl, rfl, rfl, .inl bare.1, fun _ => ?_⟩
    have slashes : bytes "//" <+: rest := List.isPrefixOf_iff_prefix.1 (Bool.and_eq_true_iff.1 slashes).2
    obtain ⟨tail, rfl⟩ := slashes
    rfl
  · obtain ⟨path, _, rfl⟩ := Option.map_eq_some_iff.1 h
    exact ⟨rfl, rfl, rfl, .inl bare.1, fun host => absurd bare.2 host⟩

/-- What a URL keeps of the text it is parsed from. -/
theorem parse_eq_some (h : parse authorities s = some url) : ∃ scheme rest,
    getScheme (cut (byte '#') s).1 = some (scheme, rest) ∧ url.scheme = scheme.map toLower ∧
      url.forceQuery = (splitQuery rest).1 ∧ url.rawQuery = (splitQuery rest).2.2 ∧
      (url.opaquePart = [] ∨ url.opaquePart = (splitQuery rest).2.1 ∧ (splitQuery rest).2.1.head? ≠ some (byte '/') ∧
        scheme ≠ []) ∧
      (url.host ≠ [] → (splitQuery rest).2.1.head? = some (byte '/')) := by
  obtain ⟨base, parsed, h⟩ := Option.bind_eq_some_iff.1 h
  have same : url.scheme = base.scheme ∧ url.forceQuery = base.forceQuery ∧ url.rawQuery = base.rawQuery ∧
      url.opaquePart = base.opaquePart ∧ url.host = base.host := by
    split at h
    · cases h
      exact ⟨rfl, rfl, rfl, rfl, rfl⟩
    · obtain ⟨fragment, _, rfl⟩ := Option.map_eq_some_iff.1 h
      exact ⟨rfl, rfl, rfl, rfl, rfl⟩
  obtain ⟨scheme, forceQuery, rawQuery, opaquePart, host⟩ := same
  rw [scheme, forceQuery, rawQuery, opaquePart, host]
  unfold parseURL at parsed
  split at parsed
  · cases parsed
  split at parsed
  · rename_i star
    cases parsed
    have whole : (cut (byte '#') s).1 = bytes "*" := star
    rw [whole]
    have split : splitQuery (bytes "*") = (false, bytes "*", []) := by decide
    refine ⟨[], bytes "*", by decide, rfl, ?_, ?_, .inl rfl, fun host => absurd rfl host⟩
    · rw [split]
    · rw [split]
  · obtain ⟨⟨name, rest⟩, found, parsed⟩ := Option.bind_eq_some_iff.1 parsed
    obtain ⟨scheme, forceQuery, rawQuery, opaquePart, host⟩ := parseHier_eq_some parsed ⟨rfl, rfl⟩
    refine ⟨name, rest, found, scheme, forceQuery, rawQuery, opaquePart.imp id fun rootless => ?_, host⟩
    refine ⟨rootless.1, rootless.2.1, fun empty => rootless.2.2 ?_⟩
    rw [empty]
    rfl

end Inversion

section Reparse

variable {authorities : Authorities} {url url' : URL} {value rest scheme : Bytes}

/-- What `parse` knows of the parts that `string` writes as they are. -/
structure URL.Parsed (url : URL) : Prop where
  scheme : url.scheme = [] ∨ IsScheme url.scheme
  rootless : url.opaquePart ≠ [] → url.scheme ≠ [] ∧ url.opaquePart.head? ≠ some (byte '/')
  opaquePart : ∀ b ∈ url.opaquePart, b ≠ byte '#' ∧ b ≠ byte '?'
  rawQuery : byte '#' ∉ url.rawQuery

theorem isScheme_toLower (named : IsScheme scheme) : IsScheme (scheme.map toLower) := by
  have lower : ∀ b, (isSchemeByte b = true → isSchemeByte (toLower b) = true) ∧
      (isLetter b = true → isLetter (toLower b) = true) := forall_bytes (by decide +kernel)
  obtain ⟨all, first, head, letter⟩ := named
  refine ⟨fun b mem => ?_, toLower first, ?_, (lower first).2 letter⟩
  · obtain ⟨a, known, rfl⟩ := List.mem_map.1 mem
    exact (lower a).1 (all a known)
  · rw [List.head?_map, Option.mem_def.1 head]
    rfl

theorem mem_splitQuery {b : UInt8} (mem : b ∈ (splitQuery rest).2.1 ∨ b ∈ (splitQuery rest).2.2) : b ∈ rest := by
  unfold splitQuery at mem
  split at mem
  · rcases mem with mem | mem
    · exact (List.dropLast_sublist rest).subset mem
    · cases mem
  · rcases cut_cases (byte '?') rest with ⟨_, divided⟩ | ⟨before, after, rfl, _, divided⟩
    · rw [divided] at mem
      simpa using mem
    · rw [divided] at mem
      simp only [List.mem_append, List.mem_cons]
      exact mem.imp id .inr

theorem notMem_splitQuery : byte '?' ∉ (splitQuery rest).2.1 := by
  unfold splitQuery
  split
  · rename_i once
    simp only [Bool.and_eq_true, decide_eq_true_eq] at once
    obtain ⟨last, count⟩ := once
    intro mem
    have whole : rest = rest.dropLast ++ [byte '?'] := by
      have present : rest ≠ [] := by
        rintro rfl
        cases last
      rw [List.getLast?_eq_some_getLast present, Option.some.injEq] at last
      rw [← last]
      exact (List.dropLast_append_getLast present).symm
    rw [whole, List.count_append] at count
    have some' : 0 < rest.dropLast.count (byte '?') := List.count_pos_iff.2 mem
    simp at count
    omega
  · rcases cut_cases (byte '?') rest with ⟨none, divided⟩ | ⟨before, after, rfl, none, divided⟩
    · rw [divided]
      exact none
    · rw [divided]
      exact none

theorem parsed_of_parse (h : parse authorities value = some url) : url.Parsed := by
  obtain ⟨scheme, rest, found, same, _, rawQuery, opaquePart, _⟩ := parse_eq_some h
  have none : byte '#' ∉ (cut (byte '#') value).1 := by
    rcases cut_cases (byte '#') value with ⟨none, divided⟩ | ⟨before, after, rfl, none, divided⟩ <;> rw [divided] <;> exact none
  have clean : byte '#' ∉ rest := by
    rcases getScheme_eq_some found with ⟨_, rfl⟩ | ⟨whole, _⟩
    · exact none
    · intro mem
      rw [whole] at none
      exact none (List.mem_append_right _ (List.mem_cons_of_mem _ mem))
  constructor
  case scheme =>
    rw [same]
    rcases getScheme_eq_some found with ⟨rfl, _⟩ | ⟨_, named⟩
    · exact .inl rfl
    · exact .inr (isScheme_toLower named)
  case rootless =>
    intro present
    rcases opaquePart with empty | ⟨rootless, head, named⟩
    · exact absurd empty present
    · rw [rootless, same]
      exact ⟨by simpa using named, head⟩
  case opaquePart =>
    intro b mem
    rcases opaquePart with empty | ⟨rootless, _, _⟩
    · rw [empty] at mem
      cases mem
    · rw [rootless] at mem
      constructor
      · rintro rfl
        exact clean (mem_splitQuery (.inl mem))
      · rintro rfl
        exact notMem_splitQuery mem
  case rawQuery =>
    rw [rawQuery]
    exact fun mem => clean (mem_splitQuery (.inr mem))

/-- What is written of every part has `p`, and so have the separators. -/
def WritesAll (p : UInt8 → Bool) : Bool :=
  Writes .encodePath p && Writes .encodeHost p && Writes .encodeUserPassword p && Writes .encodeFragment p &&
    (bytes "/@:.").all p

theorem mem_of_ite {c : Prop} [Decidable c] {s : Bytes} {b : UInt8} (mem : b ∈ if c then s else []) : b ∈ s := by
  split at mem
  · exact mem
  · cases mem

theorem string_user {p : UInt8 → Bool} {user : Userinfo} (writes : WritesAll p = true) : ∀ b ∈ user.string, p b = true := by
  simp only [WritesAll, Bool.and_eq_true, List.all_eq_true] at writes
  obtain ⟨⟨⟨⟨_, _⟩, userinfo⟩, _⟩, marks⟩ := writes
  intro b mem
  unfold Userinfo.string at mem
  rcases List.mem_append.1 (mem_of_ite mem) with mem | mem
  · exact escape_all userinfo mem
  · cases password : user.password with
    | none =>
      rw [password] at mem
      cases mem
    | some secret =>
      rw [password] at mem
      rcases List.mem_cons.1 mem with rfl | mem
      · exact marks _ (by decide)
      · exact escape_all userinfo mem

theorem authority_all {p : UInt8 → Bool} (writes : WritesAll p = true) : ∀ b ∈ url.authority, p b = true := by
  have users : ∀ user : Userinfo, ∀ b ∈ user.string, p b = true := fun user => string_user writes
  simp only [WritesAll, Bool.and_eq_true, List.all_eq_true] at writes
  obtain ⟨⟨⟨⟨_, host⟩, _⟩, _⟩, marks⟩ := writes
  have slashes : ∀ b ∈ bytes "//", b ∈ bytes "/@:." := List.all_iff_forall_prop.1 (by decide)
  intro b mem
  unfold URL.authority at mem
  split at mem
  · cases mem
  split at mem
  · cases mem
  rcases List.mem_append.1 mem with mem | mem
  · rcases List.mem_append.1 mem with mem | mem
    · exact marks b (slashes b (mem_of_ite mem))
    · cases user : url.user with
      | none =>
        rw [user] at mem
        cases mem
      | some known =>
        rw [user] at mem
        rcases List.mem_append.1 mem with mem | mem
        · exact users known b mem
        · exact marks b (by cases List.mem_singleton.1 mem; decide)
  · exact escape_all host mem

theorem hier_all {p : UInt8 → Bool} (writes : WritesAll p = true) : ∀ b ∈ url.hier, p b = true := by
  have authority : ∀ b ∈ url.authority, p b = true := authority_all writes
  simp only [WritesAll, Bool.and_eq_true, List.all_eq_true] at writes
  obtain ⟨⟨⟨⟨path, _⟩, _⟩, _⟩, marks⟩ := writes
  have dots : ∀ b ∈ bytes "./", b ∈ bytes "/@:." := List.all_iff_forall_prop.1 (by decide)
  intro b mem
  unfold URL.hier at mem
  rcases List.mem_append.1 mem with mem | mem
  · rcases List.mem_append.1 mem with mem | mem
    · rcases List.mem_append.1 mem with mem | mem
      · exact authority b mem
      · exact marks b (by cases List.mem_singleton.1 (mem_of_ite mem); decide)
    · exact marks b (dots b (mem_of_ite mem))
  · exact escaped_all path mem

/-- The scheme, and the part after it. -/
def URL.front (url : URL) : Bytes :=
  (if url.scheme ≠ [] then url.scheme ++ [byte ':'] else []) ++ if url.opaquePart ≠ [] then url.opaquePart else url.hier

theorem scheme_all {p : UInt8 → Bool} (parsed : url.Parsed) (named : ∀ b, isSchemeByte b = true → p b = true)
    (colon : p (byte ':') = true) : ∀ b ∈ if url.scheme ≠ [] then url.scheme ++ [byte ':'] else [], p b = true := by
  intro b mem
  rcases List.mem_append.1 (mem_of_ite mem) with mem | mem
  · rcases parsed.scheme with empty | scheme
    · rw [empty] at mem
      cases mem
    · exact named b (scheme.1 b mem)
  · cases List.mem_singleton.1 mem
    exact colon

theorem front_clean (parsed : url.Parsed) : byte '#' ∉ url.front := by
  have named : ∀ b, isSchemeByte b = true → (b ≠ byte '#' : Bool) = true := forall_bytes (by decide +kernel)
  intro mem
  rcases List.mem_append.1 mem with mem | mem
  · have other := scheme_all parsed named (by decide) _ mem
    simp at other
  · split at mem
    · exact (parsed.opaquePart _ mem).1 rfl
    · have other := hier_all (p := fun b => b ≠ byte '#') (by decide +kernel) _ mem
      simp at other

/-- Up to the fragment, a URL is written as its front and its query. -/
theorem cut_string (parsed : url.Parsed) : (cut (byte '#') url.string).1 =
    url.front ++ if url.forceQuery || url.rawQuery ≠ [] then byte '?' :: url.rawQuery else [] := by
  have fragment : ∀ s, byte '#' ∉ s → (cut (byte '#') (s ++ if url.fragment ≠ [] then
      byte '#' :: escaped .encodeFragment url.fragment url.rawFragment else [])).1 = s := by
    intro s none
    split
    · rw [cut_append none]
    · rw [List.append_nil, cut_of_notMem none]
  refine fragment _ fun mem => ?_
  rcases List.mem_append.1 mem with mem | mem
  · exact front_clean parsed mem
  · rcases List.mem_cons.1 (mem_of_ite mem) with same | mem
    · exact absurd same (by decide)
    · exact parsed.rawQuery mem

/-- Read again, a URL with a host and without a query has no opaque part and no query. -/
theorem parts_of_reparse (parsed : url.Parsed) (again : parse authorities url.string = some url') (host : url'.host ≠ [])
    (noForce : url'.forceQuery = false) (noQuery : url'.rawQuery = []) : url.opaquePart = [] ∧ url.rawQuery = [] := by
  obtain ⟨scheme, rest, found, _, forceQuery, rawQuery, _, rooted⟩ := parse_eq_some again
  -- no question mark stands before the fragment
  have plain : byte '?' ∉ (cut (byte '#') url.string).1 := by
    have none : byte '?' ∉ rest := by
      intro mem
      rcases splitQuery_mem mem with force | query
      · rw [← forceQuery, noForce] at force
        cases force
      · exact query (rawQuery ▸ noQuery)
    have named : ∀ b, isSchemeByte b = true → b ≠ byte '?' := forall_bytes (by decide +kernel)
    rcases getScheme_eq_some found with ⟨_, rfl⟩ | ⟨whole, scheme⟩
    · exact none
    · rw [whole]
      intro mem
      rcases List.mem_append.1 mem with mem | mem
      · exact named _ (scheme.1 _ mem) rfl
      · rcases List.mem_cons.1 mem with same | mem
        · exact absurd same (by decide)
        · exact none mem
  rw [cut_string parsed] at plain found
  have noQuestion : ¬(url.forceQuery || url.rawQuery ≠ []) = true := by
    intro asks
    rw [if_pos asks] at plain
    exact plain (List.mem_append_right _ List.mem_cons_self)
  have empty : url.rawQuery = [] := by
    by_contra present
    exact noQuestion (by simp [present])
  refine ⟨?_, empty⟩
  by_contra rootless
  rw [if_neg noQuestion, List.append_nil] at found
  obtain ⟨named, head⟩ := parsed.rootless rootless
  have written : url.front = url.scheme ++ byte ':' :: url.opaquePart := by
    rw [URL.front, if_pos named, if_pos rootless, List.append_assoc]
    rfl
  rw [written, getScheme_append (parsed.scheme.resolve_left named)] at found
  cases found
  have none : byte '?' ∉ url.opaquePart := fun mem => (parsed.opaquePart _ mem).2 rfl
  rw [splitQuery_of_notMem none] at rooted
  exact head (rooted host)

/-- **A URL that is read again with a host and without a query is graphic ASCII.** -/
theorem string_graphic (parsed : url.Parsed) (again : parse authorities url.string = some url') (host : url'.host ≠ [])
    (noForce : url'.forceQuery = false) (noQuery : url'.rawQuery = []) : ∀ b ∈ url.string, isGraphic b = true := by
  obtain ⟨rooted, query⟩ := parts_of_reparse parsed again host noForce noQuery
  have named : ∀ b, isSchemeByte b = true → isGraphic b = true := forall_bytes (by decide +kernel)
  have writes : WritesAll isGraphic = true := by decide +kernel
  have fragment : Writes .encodeFragment isGraphic = true := by decide +kernel
  intro b mem
  rcases List.mem_append.1 mem with mem | mem
  · rcases List.mem_append.1 mem with mem | mem
    · rcases List.mem_append.1 mem with mem | mem
      · exact scheme_all parsed named (by decide) b mem
      · rw [if_neg (by simp [rooted])] at mem
        exact hier_all writes b mem
    · split at mem
      · rw [query] at mem
        cases List.mem_singleton.1 mem
        decide
      · cases mem
  · split at mem
    · rcases List.mem_cons.1 mem with rfl | mem
      · decide
      · exact escaped_all fragment mem
    · cases mem

end Reparse

end Woodgate.Go.Url
