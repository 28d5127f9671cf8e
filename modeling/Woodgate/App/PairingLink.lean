import Woodgate.App.Settings
import Woodgate.Go.Url
import Woodgate.Library.Trimming

/-!
# Pairing links

`PairingPayload.parse` reads the server and the key from the query of a link. `Documented` is
what Foundation's documentation says of a URL and its query items, and
`removingPercentEncoding_queryEscape` that this undoes Go's `url.QueryEscape` for a text without
spaces.
-/

namespace Woodgate.App

open Library.Trimming

/-- A `URLQueryItem`. -/
structure QueryItem where
  name : String
  value : Option String
  deriving DecidableEq, Repr

structure URLComponents where
  queryItems : Option (List QueryItem)
  deriving DecidableEq, Repr

/-- What Foundation does with the URL of a link. -/
structure LinkFoundation extends Foundation where
  /-- `URLComponents(url:resolvingAgainstBaseURL: false)` -/
  components : URL → Option URLComponents

namespace PairingPayload

/-- The values given for a name. -/
def values (name : String) (components : URLComponents) : List String :=
  ((components.queryItems.getD []).filter fun item => decide (item.name = name)).filterMap QueryItem.value

/-- `queryValue(named:in:)` -/
def queryValue (name : String) (components : URLComponents) : Option String :=
  match values name components with
  | [value] =>
    let value := trimmed value
    if value = "" then none else some value
  | _ => none

def unscannable : AppError := .woodGateError "Scan a valid WoodGate configuration QR code."

variable (foundation : LinkFoundation)

/-- `parse(url:)` -/
def parseURL (url : URL) : Except AppError PairingPayload :=
  if url.scheme.map foundation.lowercased = some "woodgate" ∧ url.host.map foundation.lowercased = some "pair" then
    match foundation.components url with
    | none => .error unscannable
    | some components =>
      match queryValue "server" components, queryValue "key" components with
      | some server, some key => .ok { baseURL := server, stationKey := key }
      | _, _ => .error unscannable
  else .error unscannable

/-- `parse(urlString:)` -/
def parse (urlString : String) : Except AppError PairingPayload :=
  match foundation.url urlString with
  | none => .error unscannable
  | some url => parseURL foundation url

end PairingPayload

section Documentation

def hexValue (c : Char) : Option Nat :=
  if c.isDigit then some (c.toNat - 48)
  else if 65 ≤ c.toNat ∧ c.toNat ≤ 70 then some (c.toNat - 55)
  else if 97 ≤ c.toNat ∧ c.toNat ≤ 102 then some (c.toNat - 87)
  else none

/-- The bytes of a percent-encoded text. -/
def percentDecode : List Char → Option (List UInt8)
  | [] => some []
  | c :: rest =>
    if c = '%' then
      match rest with
      | high :: low :: rest => do
        let high ← hexValue high
        let low ← hexValue low
        let bytes ← percentDecode rest
        some (UInt8.ofNat (16 * high + low) :: bytes)
      | _ => none
    else (percentDecode rest).map (String.utf8EncodeChar c ++ ·)

/-- `removingPercentEncoding`; a `+` stays one. -/
def removingPercentEncoding (text : List Char) : Option String := do
  let bytes ← percentDecode text
  let chars ← bytes.toByteArray.utf8Decode?
  some (String.ofList chars.toList)

/-- A query item is split at its first `=`. -/
def queryItem (item : List Char) : Option QueryItem :=
  if '=' ∈ item then do
    let name ← removingPercentEncoding (item.takeWhile (· ≠ '='))
    let value ← removingPercentEncoding ((item.dropWhile (· ≠ '=')).drop 1)
    some { name, value := some value }
  else do
    let name ← removingPercentEncoding item
    some { name, value := none }

/-- The items of a query whose parts can be decoded; an empty query has none. -/
def queryItems (query : String) : Option (List QueryItem) :=
  if query = "" then some [] else (query.toList.splitOn '&').mapM queryItem

def isQueryChar (c : Char) : Bool := c.isAlphanum || "-._~!$&'()*+,;=:@/?".toList.contains c

/-- The `query` of RFC 3986. -/
def isQuery : List Char → Bool
  | [] => true
  | c :: rest =>
    if c = '%' then
      match rest with
      | high :: low :: rest => (hexValue high).isSome && (hexValue low).isSome && isQuery rest
      | _ => false
    else isQueryChar c && isQuery rest

/-- What the documentation says of links with a scheme and a host in lowercase letters. -/
structure Documented (foundation : LinkFoundation) : Prop where
  lowercased : ∀ s : String, (∀ c ∈ s.toList, c.isLower = true) → foundation.lowercased s = s
  url : ∀ scheme host query : String, scheme ≠ "" → (∀ c ∈ scheme.toList, c.isLower = true) → host ≠ "" →
    (∀ c ∈ host.toList, c.isLower = true) → isQuery query.toList = true →
    ∃ url, foundation.url (scheme ++ "://" ++ host ++ "?" ++ query) = some url ∧ url.scheme = some scheme ∧
      url.host = some host ∧ url.query = some query
  components : ∀ url query items, url.query = some query → isQuery query.toList = true → queryItems query = some items →
    foundation.components url = some { queryItems := some items }

end Documentation

section Escapes

open Go.Url (forall_bytes)

variable {rest : List Char} {bs : List UInt8} {b : UInt8} {s : String}

/-- An escaped byte other than a space is one character that stands for itself, or three. -/
def isEscape (b : UInt8) : Bool :=
  match Go.escapeByte b with
  | [c] => decide (String.utf8EncodeChar c = [b]) && isQueryChar c && decide (c ≠ '%' ∧ c ≠ '&' ∧ c ≠ '=')
  | [percent, high, low] => decide (percent = '%' ∧ (hexValue high).isSome ∧ (hexValue low).isSome ∧
      UInt8.ofNat (16 * (hexValue high).getD 0 + (hexValue low).getD 0) = b ∧ high ≠ '&' ∧ high ≠ '=' ∧ low ≠ '&' ∧ low ≠ '=')
  | _ => false

theorem isEscape_of_ne : ∀ b, b ≠ 0x20 → isEscape b = true := forall_bytes (by decide +kernel)

/-- What is known of an escaped byte. -/
theorem escapeByte_cases (space : b ≠ 0x20) :
    (∃ c, Go.escapeByte b = [c] ∧ String.utf8EncodeChar c = [b] ∧ isQueryChar c = true ∧ c ≠ '%' ∧ c ≠ '&' ∧ c ≠ '=') ∨
    ∃ high low m n, Go.escapeByte b = ['%', high, low] ∧ hexValue high = some m ∧ hexValue low = some n ∧
      UInt8.ofNat (16 * m + n) = b ∧ high ≠ '&' ∧ high ≠ '=' ∧ low ≠ '&' ∧ low ≠ '=' := by
  have known := isEscape_of_ne b space
  unfold isEscape at known
  split at known
  · rename_i c form
    simp only [Bool.and_eq_true, decide_eq_true_eq] at known
    exact .inl ⟨c, form, known.1.1, known.1.2, known.2⟩
  · rename_i percent high low form
    simp only [decide_eq_true_eq] at known
    obtain ⟨rfl, first, second, same, others⟩ := known
    obtain ⟨m, first⟩ := Option.isSome_iff_exists.1 first
    obtain ⟨n, second⟩ := Option.isSome_iff_exists.1 second
    rw [first, second] at same
    exact .inr ⟨high, low, m, n, form, first, second, same, others⟩
  · cases known

theorem percentDecode_plain {c : Char} (plain : c ≠ '%') :
    percentDecode (c :: rest) = (percentDecode rest).map (String.utf8EncodeChar c ++ ·) := by
  rw [percentDecode.eq_def]
  exact if_neg plain

theorem isQuery_plain {c : Char} (plain : c ≠ '%') : isQuery (c :: rest) = (isQueryChar c && isQuery rest) := by
  rw [isQuery.eq_def]
  exact if_neg plain

theorem percentDecode_escape (spaces : 0x20 ∉ bs) :
    percentDecode (bs.flatMap Go.escapeByte ++ rest) = (percentDecode rest).map (bs ++ ·) := by
  induction bs with
  | nil => simp
  | cons b bs ih =>
    simp only [List.mem_cons, not_or] at spaces
    rw [List.flatMap_cons, List.append_assoc]
    rcases escapeByte_cases (Ne.symm spaces.1) with ⟨c, form, bytes, _, percent, _⟩ | ⟨high, low, m, n, form, first, second, same, _⟩
    · rw [form, List.singleton_append, percentDecode_plain percent, ih spaces.2, bytes, Option.map_map]
      rfl
    · rw [form, List.cons_append, List.cons_append, List.singleton_append, percentDecode, if_pos rfl]
      simp only [first, second, same, ih spaces.2, Option.bind_eq_bind, Option.bind_some]
      cases percentDecode rest <;> rfl

theorem isQuery_escape (spaces : 0x20 ∉ bs) : isQuery (bs.flatMap Go.escapeByte ++ rest) = isQuery rest := by
  induction bs with
  | nil => simp
  | cons b bs ih =>
    simp only [List.mem_cons, not_or] at spaces
    rw [List.flatMap_cons, List.append_assoc]
    rcases escapeByte_cases (Ne.symm spaces.1) with ⟨c, form, _, known, percent, _⟩ | ⟨high, low, m, n, form, first, second, _⟩
    · rw [form, List.singleton_append, isQuery_plain percent, known, ih spaces.2, Bool.true_and]
    · rw [form, List.cons_append, List.cons_append, List.singleton_append, isQuery, if_pos rfl]
      simp [first, second, ih spaces.2]

theorem notMem_escape (spaces : 0x20 ∉ bs) : '&' ∉ bs.flatMap Go.escapeByte ∧ '=' ∉ bs.flatMap Go.escapeByte := by
  have each : ∀ b ∈ bs, '&' ∉ Go.escapeByte b ∧ '=' ∉ Go.escapeByte b := by
    intro b mem
    have space : b ≠ 0x20 := by
      rintro rfl
      exact spaces mem
    rcases escapeByte_cases space with ⟨c, form, _, _, _, amp, eq⟩ | ⟨high, low, _, _, form, _, _, _, rest⟩
    · rw [form]
      simp [Ne.symm amp, Ne.symm eq]
    · rw [form]
      obtain ⟨highAmp, highEq, lowAmp, lowEq⟩ := rest
      simp [Ne.symm highAmp, Ne.symm highEq, Ne.symm lowAmp, Ne.symm lowEq]
  constructor
  · intro mem
    obtain ⟨b, known, mem⟩ := List.mem_flatMap.1 mem
    exact (each b known).1 mem
  · intro mem
    obtain ⟨b, known, mem⟩ := List.mem_flatMap.1 mem
    exact (each b known).2 mem

theorem byteArray_toList (bs : ByteArray) : bs.toList = bs.data.toList := by
  have loop : ∀ n i r, bs.size - i = n → ByteArray.toList.loop bs i r = r.reverse ++ bs.data.toList.drop i := by
    intro n
    induction n with
    | zero =>
      intro i r left
      have past : ¬ i < bs.size := by omega
      have rest : bs.data.toList.drop i = [] := List.drop_eq_nil_of_le (Nat.le_of_not_lt past)
      rw [ByteArray.toList.loop, if_neg past, rest, List.append_nil]
    | succ n ih =>
      intro i r left
      have inside : i < bs.size := by omega
      have next : bs.data.toList.drop i = bs.get! i :: bs.data.toList.drop (i + 1) := by
        rw [List.drop_eq_getElem_cons (by simpa using inside)]
        congr 1
        simp [ByteArray.get!, getElem!_pos bs.data i inside]
      rw [ByteArray.toList.loop, if_pos inside, ih (i + 1) _ (by omega), next, List.reverse_cons, List.append_assoc]
      rfl
  have whole := loop bs.size 0 [] rfl
  simpa [ByteArray.toList] using whole

theorem utf8_toList (s : String) : s.toUTF8.toList = s.toList.flatMap String.utf8EncodeChar := by
  rw [byteArray_toList, String.toUTF8_eq_toByteArray, ← String.utf8Encode_toList]
  exact List.toList_data_toByteArray

/-- **`url.QueryEscape` is undone**, for a text without spaces. -/
theorem removingPercentEncoding_queryEscape (spaces : 0x20 ∉ s.toUTF8.toList) :
    removingPercentEncoding (Go.queryEscape s).toList = some s := by
  have decoded : percentDecode (Go.queryEscape s).toList = some s.toUTF8.toList := by
    have all : percentDecode (s.toUTF8.toList.flatMap Go.escapeByte ++ []) = _ := percentDecode_escape spaces
    rw [List.append_nil] at all
    rw [Go.queryEscape, String.toList_ofList, all]
    simp [percentDecode]
  have encoded : s.toUTF8.toList.toByteArray = s.toList.utf8Encode := by
    rw [utf8_toList]
    rfl
  unfold removingPercentEncoding
  rw [decoded, Option.bind_eq_bind, Option.bind_some, encoded, List.utf8Decode?_utf8Encode]
  simp

end Escapes

end Woodgate.App
