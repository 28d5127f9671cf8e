import Woodgate.Go.Url

/-!
# The server's configuration

The server URL is normalized and then has to be a web origin. `serverURL_graphic` says that an
accepted one is written with graphic ASCII characters, whatever the environment holds.
-/

namespace Woodgate.Config

open Go.Url

/-- The UTF-8 encodings of the characters that `unicode.IsSpace` holds of. -/
def spaces : List Bytes :=
  [[0x09], [0x0A], [0x0B], [0x0C], [0x0D], [0x20], [0xC2, 0x85], [0xC2, 0xA0], [0xE1, 0x9A, 0x80], [0xE2, 0x80, 0xA8],
    [0xE2, 0x80, 0xA9], [0xE2, 0x80, 0xAF], [0xE2, 0x81, 0x9F], [0xE3, 0x80, 0x80]] ++
    (List.range 11).map fun n => [0xE2, 0x80, 0x80 + UInt8.ofNat n]

/-- Cuts at most so many spaces. -/
def trimLeft : Nat → Bytes → Bytes
  | 0, s => s
  | n + 1, s =>
    match spaces.find? fun space => space.isPrefixOf s with
    | none => s
    | some space => trimLeft n (s.drop space.length)

def trimRight : Nat → Bytes → Bytes
  | 0, s => s
  | n + 1, s =>
    match spaces.find? fun space => space.isSuffixOf s with
    | none => s
    | some space => trimRight n (s.take (s.length - space.length))

/-- `strings.TrimSpace` -/
def trimSpace (s : Bytes) : Bytes := trimRight s.length (trimLeft s.length s)

variable (authorities : Authorities)

def normalizeOrigin (value : Bytes) : Bytes :=
  let value := trimSpace value
  match parse authorities value with
  | none => value
  | some parsed => { parsed with path := if parsed.path = bytes "/" then [] else parsed.path : URL }.string

def isWebOrigin (value : Bytes) (httpsOnly : Bool) : Bool :=
  match parse authorities value with
  | none => false
  | some parsed =>
    if parsed.host = [] || parsed.user.isSome || parsed.rawQuery ≠ [] || parsed.forceQuery || parsed.fragment ≠ [] ||
        (parsed.path ≠ [] && parsed.path ≠ bytes "/") then false
    else if httpsOnly then parsed.scheme = bytes "https"
    else parsed.scheme = bytes "http" || parsed.scheme = bytes "https"

/-- The server URL that `Load` takes from the value of `WOODGATE_URL`, if it does not refuse it. -/
def loadServerURL (value : Bytes) : Option Bytes :=
  let serverURL := normalizeOrigin authorities value
  if serverURL ≠ [] && isWebOrigin authorities serverURL false then some serverURL else none

variable {authorities} {value serverURL : Bytes}

theorem serverURL_graphic (loaded : loadServerURL authorities value = some serverURL) :
    serverURL ≠ [] ∧ ∀ b ∈ serverURL, isGraphic b = true := by
  unfold loadServerURL at loaded
  dsimp only at loaded
  split at loaded
  case isFalse => cases loaded
  rename_i accepted
  cases loaded
  simp only [Bool.and_eq_true, decide_eq_true_eq] at accepted
  obtain ⟨present, origin⟩ := accepted
  refine ⟨present, ?_⟩
  cases again : parse authorities (normalizeOrigin authorities value) with
  | none => simp [isWebOrigin, again] at origin
  | some url' =>
    have parts : url'.host ≠ [] ∧ url'.rawQuery = [] ∧ url'.forceQuery = false := by
      simp only [isWebOrigin, again] at origin
      split at origin
      · cases origin
      · rename_i accepted
        simp only [Bool.or_eq_true, not_or, decide_eq_true_eq, Bool.not_eq_true, ne_eq, not_not] at accepted
        exact ⟨accepted.1.1.1.1.1, accepted.1.1.1.2, accepted.1.1.2⟩
    cases parsed : parse authorities (trimSpace value) with
    | none =>
      have raw : normalizeOrigin authorities value = trimSpace value := by simp [normalizeOrigin, parsed]
      rw [raw, parsed] at again
      cases again
    | some url =>
      have facts := parsed_of_parse parsed
      have written : normalizeOrigin authorities value =
          { url with path := if url.path = bytes "/" then [] else url.path : URL }.string := by simp [normalizeOrigin, parsed]
      rw [written] at again ⊢
      exact string_graphic ⟨facts.scheme, facts.rootless, facts.opaquePart, facts.rawQuery⟩ again parts.1 parts.2.2 parts.2.1

end Woodgate.Config
