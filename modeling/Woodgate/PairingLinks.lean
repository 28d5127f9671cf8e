import Woodgate.App.PairingLink
import Woodgate.Config
import Woodgate.Stations.Service

/-!
# Pairing a station

The server writes the link that a station is paired with, and the app reads it. `pairing_link`
says that the app gets the server URL and the key as they are, and that it takes no link in which
one of them is missing, blank or given twice.
-/

namespace Woodgate

open App Go.Url Library.Trimming

section Key

/-- The alphabet of `base64.RawURLEncoding`. -/
def alphabet : List Char := "ABCDEFGHIJKLMNOPQRSTUVWXYZabcdefghijklmnopqrstuvwxyz0123456789-_".toList

def sextet (n : Nat) : Char := alphabet.getD (n % 64) 'A'

/-- `base64.RawURLEncoding.EncodeToString` -/
def rawURLEncode : List UInt8 → List Char
  | a :: b :: c :: rest =>
    let n := a.toNat * 65536 + b.toNat * 256 + c.toNat
    [sextet (n / 262144), sextet (n / 4096), sextet (n / 64), sextet n] ++ rawURLEncode rest
  | [a, b] =>
    let n := a.toNat * 65536 + b.toNat * 256
    [sextet (n / 262144), sextet (n / 4096), sextet (n / 64)]
  | [a] =>
    let n := a.toNat * 65536
    [sextet (n / 262144), sextet (n / 4096)]
  | [] => []

/-- `randtoken.Generate`, of the bytes that `rand.Read` gives. -/
def generate (random : List UInt8) : String := String.ofList (rawURLEncode random)

end Key

section Texts

variable {s : String} {bs : Bytes}

/-- Every character is graphic ASCII. -/
def Graphic (s : String) : Prop := ∀ c ∈ s.toList, 0x21 ≤ c.toNat ∧ c.toNat ≤ 0x7E

theorem Graphic.append {t : String} (first : Graphic s) (second : Graphic t) : Graphic (s ++ t) := by
  intro c mem
  rw [String.toList_append] at mem
  exact (List.mem_append.1 mem).elim (first c) (second c)

theorem Graphic.spaces (graphic : Graphic s) : 0x20 ∉ s.toUTF8.toList := by
  rw [utf8_toList]
  intro mem
  obtain ⟨c, known, mem⟩ := List.mem_flatMap.1 mem
  obtain ⟨low, high⟩ := graphic c known
  have one : c.utf8Size = 1 := by
    rw [Char.utf8Size_eq_one_iff, UInt32.le_iff_toNat_le]
    exact Nat.le_trans high (by decide)
  rw [String.utf8EncodeChar_eq_singleton one, List.mem_singleton] at mem
  have value : c.toNat % 256 = 0x20 := (congrArg UInt8.toNat mem).symm
  omega

theorem Graphic.trimmed (graphic : Graphic s) : trimmed s = s := by
  have keeps : ∀ c ∈ s.toList, Go.isSpace c = false := by
    intro c mem
    obtain ⟨low, high⟩ := graphic c mem
    simp only [Go.isSpace, Bool.or_eq_false_iff, Bool.and_eq_false_iff, decide_eq_false_iff_not]
    omega
  have whole : trim Go.isSpace s.toList = s.toList :=
    trim_eq_self_iff.2
      ⟨fun c first => keeps c (List.mem_of_mem_head? first), fun c last => keeps c (List.mem_of_mem_getLast? last)⟩
  show String.ofList (trim Go.isSpace s.toList) = s
  rw [whole, String.ofList_toList]

theorem graphic_generate (random : List UInt8) : Graphic (generate random) := by
  have letter : ∀ n, 0x21 ≤ (sextet n).toNat ∧ (sextet n).toNat ≤ 0x7E := by
    intro n
    have table : ∀ m, m < 64 → 0x21 ≤ (sextet m).toNat ∧ (sextet m).toNat ≤ 0x7E := by decide +kernel
    have small := table (n % 64) (Nat.mod_lt n (by decide))
    rwa [sextet, Nat.mod_mod] at small
  unfold Graphic generate
  rw [String.toList_ofList]
  fun_induction rawURLEncode random with
  | case1 a b c rest n ih =>
    intro d mem
    rcases List.mem_append.1 mem with mem | mem
    · simp only [List.mem_cons, List.not_mem_nil, or_false] at mem
      rcases mem with rfl | rfl | rfl | rfl <;> exact letter _
    · exact ih d mem
  | case2 a b n =>
    intro d mem
    simp only [List.mem_cons, List.not_mem_nil, or_false] at mem
    rcases mem with rfl | rfl | rfl <;> exact letter _
  | case3 a n =>
    intro d mem
    simp only [List.mem_cons, List.not_mem_nil, or_false] at mem
    rcases mem with rfl | rfl <;> exact letter _
  | case4 => simp

/-- The text with these bytes, when they are ASCII. -/
def text (bs : Bytes) : String := String.ofList (bs.map fun b => Char.ofNat b.toNat)

theorem text_graphic (graphic : ∀ b ∈ bs, isGraphic b = true) : Graphic (text bs) := by
  have each : ∀ b, isGraphic b = true → 0x21 ≤ (Char.ofNat b.toNat).toNat ∧ (Char.ofNat b.toNat).toNat ≤ 0x7E :=
    forall_bytes (by decide +kernel)
  intro c mem
  rw [text, String.toList_ofList] at mem
  obtain ⟨b, known, rfl⟩ := List.mem_map.1 mem
  exact each b (graphic b known)

theorem text_utf8 (graphic : ∀ b ∈ bs, isGraphic b = true) : (text bs).toUTF8.toList = bs := by
  have each : ∀ b, isGraphic b = true → String.utf8EncodeChar (Char.ofNat b.toNat) = [b] :=
    forall_bytes (by decide +kernel)
  rw [utf8_toList, text, String.toList_ofList]
  induction bs with
  | nil => rfl
  | cons b bs ih =>
    rw [List.map_cons, List.flatMap_cons, each b (graphic b (by simp)),
      ih fun b mem => graphic b (List.mem_cons_of_mem _ mem)]
    rfl

end Texts

section Links

variable {foundation : LinkFoundation} {name rest : List Char} {key server query : String}

/-- A list is cut at its first separator. -/
theorem split_first {sep : Char} (before : ∀ c ∈ name, decide (c ≠ sep) = true) (rest : List Char) :
    (name ++ sep :: rest).takeWhile (· ≠ sep) = name ∧ (name ++ sep :: rest).dropWhile (· ≠ sep) = sep :: rest := by
  rw [List.takeWhile_append_of_pos before, List.dropWhile_append_of_pos before]
  simp

theorem isQuery_append (plain : ∀ c ∈ name, isQueryChar c = true ∧ c ≠ '%') : isQuery (name ++ rest) = isQuery rest := by
  induction name with
  | nil => rfl
  | cons c name ih =>
    obtain ⟨known, percent⟩ := plain c (by simp)
    rw [List.cons_append, isQuery_plain percent, known, ih fun d mem => plain d (List.mem_cons_of_mem _ mem),
      Bool.true_and]

/-- The item that `Encode` writes for a name without an escape and a value without spaces. -/
theorem queryItem_escape {given : String} (noEq : '=' ∉ name) (named : removingPercentEncoding name = some given)
    (spaces : 0x20 ∉ key.toUTF8.toList) :
    queryItem (name ++ '=' :: (Go.queryEscape key).toList) = some { name := given, value := some key } := by
  have before : ∀ c ∈ name, decide (c ≠ '=') = true := by
    intro c mem
    exact decide_eq_true fun same => noEq (same ▸ mem)
  obtain ⟨left, right⟩ := split_first before (Go.queryEscape key).toList
  rw [queryItem, if_pos (by simp), left, right, named, List.drop_one, List.tail_cons,
    removingPercentEncoding_queryEscape spaces]
  rfl

/-- The query of a pairing link. -/
def linkQuery (key server : String) : String := "key=" ++ Go.queryEscape key ++ "&server=" ++ Go.queryEscape server

theorem linkQuery_toList :
    (linkQuery key server).toList =
      ("key".toList ++ '=' :: (Go.queryEscape key).toList) ++
        '&' :: ("server".toList ++ '=' :: (Go.queryEscape server).toList) := by
  simp [linkQuery]

theorem isQuery_linkQuery (keySpaces : 0x20 ∉ key.toUTF8.toList) (serverSpaces : 0x20 ∉ server.toUTF8.toList) :
    isQuery (linkQuery key server).toList = true := by
  have form : (linkQuery key server).toList = "key=".toList ++ (key.toUTF8.toList.flatMap Go.escapeByte ++
      ("&server=".toList ++ (server.toUTF8.toList.flatMap Go.escapeByte ++ []))) := by
    simp [linkQuery, Go.queryEscape]
  rw [form, isQuery_append (List.all_iff_forall_prop.1 (by decide)), isQuery_escape keySpaces,
    isQuery_append (List.all_iff_forall_prop.1 (by decide)), isQuery_escape serverSpaces, isQuery]

/-- The app's items are the pairs that were encoded. -/
theorem queryItems_linkQuery (keySpaces : 0x20 ∉ key.toUTF8.toList) (serverSpaces : 0x20 ∉ server.toUTF8.toList) :
    queryItems (linkQuery key server) =
      some [{ name := "key", value := some key }, { name := "server", value := some server }] := by
  have apart : '&' ∉ "key".toList ++ '=' :: (Go.queryEscape key).toList := by
    have escaped := (notMem_escape keySpaces).1
    simpa [Go.queryEscape] using escaped
  have last : '&' ∉ "server".toList ++ '=' :: (Go.queryEscape server).toList := by
    have escaped := (notMem_escape serverSpaces).1
    simpa [Go.queryEscape] using escaped
  have first : queryItem ("key".toList ++ '=' :: (Go.queryEscape key).toList) = some { name := "key", value := some key } :=
    queryItem_escape (by decide) (by decide +kernel) keySpaces
  have second : queryItem ("server".toList ++ '=' :: (Go.queryEscape server).toList) =
      some { name := "server", value := some server } := queryItem_escape (by decide) (by decide +kernel) serverSpaces
  have written : linkQuery key server ≠ "" := by
    intro empty
    have none_ := congrArg String.toList empty
    rw [linkQuery_toList] at none_
    simp at none_
  rw [queryItems, if_neg written, linkQuery_toList, List.splitOn_append_cons_self_of_not_mem apart,
    List.splitOn_eq_singleton last]
  simp only [List.mapM_cons, List.mapM_nil, first, second]
  rfl

/-- The link of two texts that are not empty and written in graphic characters gives both. -/
theorem parse_link (documented : Documented foundation) (station : Stations.Station) (keyGraphic : Graphic key)
    (serverGraphic : Graphic server) (keyed : key ≠ "") (served : server ≠ "") :
    PairingPayload.parse foundation (Stations.pairing server station key).url =
      .ok { baseURL := server, stationKey := key } := by
  have written : (Stations.pairing server station key).url =
      "woodgate" ++ "://" ++ "pair" ++ "?" ++ linkQuery key server := by
    simp only [Stations.pairing, linkQuery, ← String.append_assoc]
    rfl
  obtain ⟨url, read, scheme, host, queried⟩ := documented.url "woodgate" "pair" (linkQuery key server) (by decide)
    (List.all_iff_forall_prop.1 (by decide)) (by decide) (List.all_iff_forall_prop.1 (by decide))
    (isQuery_linkQuery keyGraphic.spaces serverGraphic.spaces)
  have components := documented.components url _ _ queried (isQuery_linkQuery keyGraphic.spaces serverGraphic.spaces)
    (queryItems_linkQuery keyGraphic.spaces serverGraphic.spaces)
  have schemed := documented.lowercased "woodgate" (List.all_iff_forall_prop.1 (by decide))
  have hosted := documented.lowercased "pair" (List.all_iff_forall_prop.1 (by decide))
  have foundServer :
      PairingPayload.queryValue "server" ⟨some [⟨"key", some key⟩, ⟨"server", some server⟩]⟩ = some server := by
    simp [PairingPayload.queryValue, PairingPayload.values, serverGraphic.trimmed, served]
  have foundKey :
      PairingPayload.queryValue "key" ⟨some [⟨"key", some key⟩, ⟨"server", some server⟩]⟩ = some key := by
    simp [PairingPayload.queryValue, PairingPayload.values, keyGraphic.trimmed, keyed]
  rw [written, PairingPayload.parse, read]
  simp only [PairingPayload.parseURL, scheme, host, Option.map_some, schemed, hosted, and_self, if_true, components,
    foundServer, foundKey]

/-- A value is there only for a name that is given one value, and that is not blank. -/
theorem queryValue_none {name : String} {components : URLComponents}
    (refused : PairingPayload.values name components = [] ∨ 2 ≤ (PairingPayload.values name components).length ∨
      ∃ value, PairingPayload.values name components = [value] ∧ trimmed value = "") :
    PairingPayload.queryValue name components = none := by
  rcases refused with missing | twice | ⟨value, single, blank⟩
  · rw [PairingPayload.queryValue, missing]
  · unfold PairingPayload.queryValue
    split
    · rename_i value single
      rw [single] at twice
      simp at twice
    · rfl
  · simp [PairingPayload.queryValue, single, blank]

end Links

section Example

/-- Splits a link at its separators. -/
def splitURL (urlString : String) : App.URL :=
  let rest := (urlString.toList.dropWhile (· ≠ ':')).drop 3
  { absoluteString := urlString
    scheme := some (String.ofList (urlString.toList.takeWhile (· ≠ ':')))
    host := some (String.ofList (rest.takeWhile (· ≠ '?')))
    query := some (String.ofList ((rest.dropWhile (· ≠ '?')).drop 1)) }

def splitFoundation : LinkFoundation where
  url urlString := some (splitURL urlString)
  lowercased s := String.ofList (s.toList.map Char.toLower)
  image data := some data
  debug := false
  components url := (url.query.bind queryItems).map fun items => { queryItems := some items }

theorem toLower_of_isLower {c : Char} (lower : c.isLower = true) : c.toLower = c := by
  have bounds : (decide (c.val ≥ 97) && decide (c.val ≤ 122)) = true := lower
  simp only [Bool.and_eq_true, decide_eq_true_eq, UInt32.le_iff_toNat_le, ge_iff_le] at bounds
  have past : ¬ (c.val ≥ 'A'.val ∧ c.val ≤ 'Z'.val) := by
    simp only [UInt32.le_iff_toNat_le, ge_iff_le, not_and, Nat.not_le]
    exact fun _ => Nat.lt_of_lt_of_le (by decide) bounds.1
  exact dif_neg past

theorem ne_of_isLower {c d : Char} (lower : c.isLower = true) (upper : d.isLower = false) : decide (c ≠ d) = true := by
  refine decide_eq_true fun same => ?_
  rw [same, upper] at lower
  cases lower

theorem split_documented : Documented splitFoundation where
  lowercased s lower := by
    have each : s.toList.map Char.toLower = s.toList := by
      refine (List.map_congr_left fun c mem => ?_).trans (List.map_id _)
      exact toLower_of_isLower (lower c mem)
    show String.ofList (s.toList.map Char.toLower) = s
    rw [each, String.ofList_toList]
  url scheme host query _ schemed _ hosted _ := by
    have colons : ∀ c ∈ scheme.toList, decide (c ≠ ':') = true := fun c mem => ne_of_isLower (schemed c mem) (by decide)
    have marks : ∀ c ∈ host.toList, decide (c ≠ '?') = true := fun c mem => ne_of_isLower (hosted c mem) (by decide)
    have form : (scheme ++ "://" ++ host ++ "?" ++ query).toList =
        scheme.toList ++ ':' :: '/' :: '/' :: (host.toList ++ '?' :: query.toList) := by simp
    refine ⟨_, rfl, ?_⟩
    simp only [splitURL, form, (split_first colons _).1, (split_first colons _).2, List.drop_succ_cons, List.drop_zero,
      (split_first marks _).1, (split_first marks _).2, String.ofList_toList, and_self]
  components url query items queried _ read := by
    show (url.query.bind queryItems).map _ = _
    rw [queried, Option.bind_some, read]
    rfl

def sampleStation : Stations.Station := ⟨1, "Front desk", 1, ⟨1, "Office"⟩, true, .offline, "", none, 0, 0⟩

theorem blank_components : splitFoundation.components (splitURL "woodgate://pair?key=%20&server=gate") =
    some { queryItems := some [⟨"key", some " "⟩, ⟨"server", some "gate"⟩] } := by
  decide +kernel

end Example

/-- **A pairing link gives the app the server URL and the key as they are**, for every server URL
that configuration loading accepts and every key. A link in which one of them is missing, blank
or given twice gives an error. -/
theorem pairing_link (foundation : LinkFoundation) (documented : Documented foundation) :
    (∀ (authorities : Authorities) (value serverURL : Bytes) (sha256Hex : String → String) (random : List UInt8)
        (key hash : String) (station : Stations.Station),
      Config.loadServerURL authorities value = some serverURL →
      Stations.newKey sha256Hex (.ok (generate random)) = .ok (key, hash) →
      ∃ server : String, server.toUTF8.toList = serverURL ∧
        PairingPayload.parse foundation (Stations.pairing server station key).url =
          .ok { baseURL := server, stationKey := key }) ∧
    ∀ urlString : String,
      (∀ url components, foundation.url urlString = some url → foundation.components url = some components →
        ∃ name ∈ ["server", "key"], PairingPayload.values name components = [] ∨
          2 ≤ (PairingPayload.values name components).length ∨
          ∃ value, PairingPayload.values name components = [value] ∧ trimmed value = "") →
      ∃ error, PairingPayload.parse foundation urlString = .error error := by
  constructor
  · intro authorities value serverURL sha256Hex random key hash station loaded generated
    obtain ⟨present, graphic⟩ := Config.serverURL_graphic loaded
    have utf8 := text_utf8 graphic
    have served : text serverURL ≠ "" := by
      intro empty
      rw [empty, utf8_toList] at utf8
      exact present utf8.symm
    have form : key = "wgst_" ++ generate random := by
      simp only [Stations.newKey, Except.ok.injEq, Prod.mk.injEq] at generated
      exact generated.1.symm
    have keyGraphic : Graphic key := by
      rw [form]
      exact Graphic.append (List.all_iff_forall_prop.1 (by decide)) (graphic_generate random)
    have keyed : key ≠ "" := by
      rw [form]
      simp
    exact ⟨text serverURL, utf8, parse_link documented station keyGraphic (text_graphic graphic) keyed served⟩
  · intro urlString refused
    unfold PairingPayload.parse
    cases read : foundation.url urlString with
    | none => exact ⟨_, rfl⟩
    | some url =>
      show ∃ error, PairingPayload.parseURL foundation url = .error error
      unfold PairingPayload.parseURL
      split
      case isFalse => exact ⟨_, rfl⟩
      cases queried : foundation.components url with
      | none => exact ⟨_, rfl⟩
      | some components =>
        obtain ⟨name, named, refused⟩ := refused url components read queried
        have absent := queryValue_none refused
        simp only [List.mem_cons, List.not_mem_nil, or_false] at named
        rcases named with rfl | rfl
        · exact ⟨PairingPayload.unscannable, by simp [absent]⟩
        · refine ⟨PairingPayload.unscannable, ?_⟩
          cases PairingPayload.queryValue "server" components <;> simp [absent]

/-- The link for a server that listens on a port, and a link with a blank key. -/
theorem pairing_link_sample :
    (∃ server : String, server.toUTF8.toList = bytes "https://gate.example:8443" ∧
      PairingPayload.parse splitFoundation
          (Stations.pairing server sampleStation ("wgst_" ++ generate [251, 1, 2])).url =
        .ok { baseURL := server, stationKey := "wgst_" ++ generate [251, 1, 2] }) ∧
      ∃ error, PairingPayload.parse splitFoundation "woodgate://pair?key=%20&server=gate" = .error error := by
  constructor
  · exact (pairing_link splitFoundation split_documented).1 (fun _ authority => some (none, authority))
      (bytes " https://gate.example:8443/ ") _ id [251, 1, 2] _ _ sampleStation (by decide +kernel) rfl
  · refine (pairing_link splitFoundation split_documented).2 _ fun url components read queried => ⟨"key", by simp, ?_⟩
    cases read
    rw [blank_components] at queried
    cases queried
    exact .inr (.inr ⟨" ", by decide, by decide⟩)

end Woodgate
