import Woodgate.Go.Strconv
import Woodgate.Go.Strings
import Woodgate.Stations.Store

/-!
# The protocol a station offers

`Server.connect` compares the subprotocols a client offers with the one the server speaks.
What it refuses it records, with the version it reads from the offer. `Spells` lists the
offers from which a version is read, and `rejected_offers` says for which of them the record
is what the claim promises.
-/

namespace Woodgate.Stations

open Library Library.ReadCommitted

section Model

/-- `ProtocolVersion` -/
def supportedVersion : Int := 1

/-- `Subprotocol` -/
def subprotocol : String := "woodgate-station.v1"

def subprotocolPrefix : String := "woodgate-station.v"

def parseSubprotocolVersion (subprotocol : String) : Option Int :=
  if subprotocolPrefix.toList.isPrefixOf subprotocol.toList then
    match Go.atoi (String.ofList (subprotocol.toList.drop subprotocolPrefix.toList.length)) with
    | none => none
    | some version => if version < 0 then none else some version
  else none

def offeredSubprotocols (headerValues : List String) : List String :=
  headerValues.flatMap fun value => (value.toList.splitOn ',').map fun protocol => Go.trimSpace (String.ofList protocol)

def incompatibleProtocolVersion : List String → Option Int
  | [protocol] => parseSubprotocolVersion protocol
  | _ => none

def validBuild (value : String) : Bool :=
  decide (value ≠ "") && decide (value.utf8ByteSize ≤ 128) && value.toList.all fun c => decide ('!' ≤ c) && decide (c ≤ '~')

def compatibleBuild : List String → String
  | [build] => if validBuild build then build else ""
  | _ => ""

/-- What `Server.connect` does with an authenticated request. -/
inductive Negotiation where
  | accept (appBuild : String)
  | observeRejectedClient (protocolVersion : Option Int) (appBuild : String)
  deriving DecidableEq, Repr

def connect (protocolHeaders buildHeaders : List String) : Negotiation :=
  let protocols := offeredSubprotocols protocolHeaders
  let appBuild := compatibleBuild buildHeaders
  if protocols ≠ [subprotocol] ∨ buildHeaders.length ≠ 1 ∨ appBuild = "" then
    .observeRejectedClient (incompatibleProtocolVersion protocols) appBuild
  else .accept appBuild

/-- A call of `Store.ObserveRejectedClient`. -/
def recordRejection (sha256Hex : String → String) (now : Time) (stationID : ID) (secret : String)
    (protocolVersion : Option Int) (version : String) (d : Db) : Except Err Db :=
  runStatements (observeRejectedClient sha256Hex now stationID secret protocolVersion version) d

end Model

section Offers

/-- The offer is a spelling of the number. -/
def Spells (offer : String) (n : Nat) : Prop :=
  ∃ text, offer.toList = subprotocolPrefix.toList ++ text ∧ Go.Numeral text n

theorem parseSubprotocolVersion_iff {offer : String} {v : Int} :
    parseSubprotocolVersion offer = some v ↔ ∃ n : Nat, v = n ∧ v ≤ Go.maxInt64 ∧ Spells offer n := by
  have text : parseSubprotocolVersion offer = some v ↔
      ∃ text, offer.toList = subprotocolPrefix.toList ++ text ∧ Go.atoi (String.ofList text) = some v ∧ 0 ≤ v := by
    unfold parseSubprotocolVersion
    constructor
    · intro parsed
      split at parsed
      · rename_i starts
        obtain ⟨text, split⟩ := List.isPrefixOf_iff_prefix.1 starts
        refine ⟨text, split.symm, ?_⟩
        rw [← split, List.drop_left] at parsed
        split at parsed
        · cases parsed
        · rename_i version read
          split at parsed
          · cases parsed
          · cases parsed
            exact ⟨read, by omega⟩
      · cases parsed
    · rintro ⟨text, split, read, nonneg⟩
      rw [if_pos (List.isPrefixOf_iff_prefix.2 ⟨text, split.symm⟩), split, List.drop_left, read]
      exact if_neg (by omega)
  rw [text]
  constructor
  · rintro ⟨text, split, read⟩
    obtain ⟨n, is, fits, numeral⟩ := Go.atoi_nonneg_iff.1 read
    rw [String.toList_ofList] at numeral
    exact ⟨n, is, fits, text, split, numeral⟩
  · rintro ⟨n, is, fits, text, split, numeral⟩
    refine ⟨text, split, Go.atoi_nonneg_iff.2 ⟨n, is, fits, ?_⟩⟩
    rw [String.toList_ofList]
    exact numeral

/-- Any other single offer is refused, and observed with the version read from it. -/
theorem connect_refuses {protocolHeaders buildHeaders : List String} {offer : String}
    (offered : offeredSubprotocols protocolHeaders = [offer]) (other : offer ≠ subprotocol) :
    connect protocolHeaders buildHeaders =
      .observeRejectedClient (parseSubprotocolVersion offer) (compatibleBuild buildHeaders) := by
  unfold connect
  rw [offered]
  exact if_pos (.inl fun same => other (List.cons.inj same).1)

/-- The row is written for every station whose credential holds. -/
theorem recordRejection_ok {sha256Hex : String → String} {now : Time} {k : ID} {secret version : String} {v : Option Int} {d : Db}
    (fits : ∀ n, v = some n → 0 ≤ n ∧ n ≤ 2147483647) (credential : Credential sha256Hex secret (d.stations.row k)) :
    ∃ d', recordRejection sha256Hex now k secret v version d = .ok d' ∧
      d'.rejections.row k = some ⟨v, version, now + stationRejectionTTL⟩ := by
  have checked : (v.any fun n => decide (n < 0)) = false := by
    cases v with
    | none => rfl
    | some n => exact decide_eq_false (Int.not_lt.2 (fits n rfl).1)
  obtain ⟨s, found, enabled, secretHash⟩ := credential
  refine ⟨{ d with rejections := d.rejections.set k ⟨v, version, now + stationRejectionTTL⟩ }, ?_, Table.row_set_self _ _ _⟩
  have locks : lockStationCredential sha256Hex k secret d = .ok ([(.station k, .share)], d) := by
    rw [lockStationCredential, found]
    exact if_pos (by simp [enabled, secretHash])
  have writes : encodeInteger v (upsertRejection k ⟨v, version, now + stationRejectionTTL⟩) d =
      .ok ([(.rejection k, .noKeyUpdate), (.station k, .keyShare)],
        { d with rejections := d.rejections.set k ⟨v, version, now + stationRejectionTTL⟩ }) := by
    refine encodeInteger_ok.2 ⟨fun n given => ?_, ?_⟩
    · have := fits n given
      omega
    · rw [upsertRejection, checked, found]
      rfl
  exact runStatements_cons_ok.2 ⟨_, _, locks, runStatements_cons_ok.2 ⟨_, _, writes, rfl⟩⟩

/-- The version observed for the offer fits the column and is not the supported one, and the
row is written. -/
structure Truthful (offer : String) : Prop where
  version : ∀ v, parseSubprotocolVersion offer = some v → 0 ≤ v ∧ v ≤ 2147483647 ∧ v ≠ supportedVersion
  written : ∀ sha256Hex now k secret d protocolHeaders buildHeaders, offeredSubprotocols protocolHeaders = [offer] →
    Credential sha256Hex secret (d.stations.row k) → ∃ version appBuild d',
      connect protocolHeaders buildHeaders = .observeRejectedClient version appBuild ∧ version = parseSubprotocolVersion offer ∧
      recordRejection sha256Hex now k secret version appBuild d = .ok d' ∧
      d'.rejections.row k = some ⟨version, appBuild, now + stationRejectionTTL⟩

/-- A number the offer spells is not the supported version and fits the column, if it fits
Go's `int`. -/
def Plain (offer : String) : Prop := ∀ n : Nat, Spells offer n → (n : Int) ≤ Go.maxInt64 → n ≤ 2147483647 ∧ n ≠ 1

theorem truthful_iff {offer : String} (other : offer ≠ subprotocol) : Truthful offer ↔ Plain offer := by
  constructor
  · intro truthful n spells fits
    obtain ⟨_, small, unsupported⟩ := truthful.version n (parseSubprotocolVersion_iff.2 ⟨n, rfl, fits, spells⟩)
    unfold supportedVersion at unsupported
    omega
  · intro plain
    have version : ∀ v, parseSubprotocolVersion offer = some v → 0 ≤ v ∧ v ≤ 2147483647 ∧ v ≠ supportedVersion := by
      intro v parsed
      obtain ⟨n, rfl, fits, spells⟩ := parseSubprotocolVersion_iff.1 parsed
      have := plain n spells fits
      unfold supportedVersion
      omega
    refine ⟨version, fun sha256Hex now k secret d protocolHeaders buildHeaders offered credential => ?_⟩
    obtain ⟨d', recorded, row⟩ := @recordRejection_ok sha256Hex now k secret (compatibleBuild buildHeaders) _ d
      (fun n parsed => ⟨(version n parsed).1, (version n parsed).2.1⟩) credential
    exact ⟨_, _, d', connect_refuses offered other, rfl, recorded, row⟩

/-- **What is recorded of two refused offers**: the claim's part of each and of both holds unless
one spells the supported version or a number too large for the column, or the two spell one
number differently. -/
theorem rejected_offers {offer offer' : String} (other : offer ≠ subprotocol) (other' : offer' ≠ subprotocol) :
    (Truthful offer ∧ Truthful offer' ∧
        ∀ v, parseSubprotocolVersion offer = some v → parseSubprotocolVersion offer' = some v → offer = offer') ↔
      Plain offer ∧ Plain offer' ∧ ∀ n : Nat, Spells offer n → Spells offer' n → (n : Int) ≤ Go.maxInt64 → offer = offer' := by
  rw [truthful_iff other, truthful_iff other']
  refine and_congr_right fun _ => and_congr_right fun _ => ?_
  constructor
  · intro same n spells spells' fits
    exact same n (parseSubprotocolVersion_iff.2 ⟨n, rfl, fits, spells⟩) (parseSubprotocolVersion_iff.2 ⟨n, rfl, fits, spells'⟩)
  · intro same v parsed parsed'
    obtain ⟨n, rfl, fits, spells⟩ := parseSubprotocolVersion_iff.1 parsed
    obtain ⟨m, equal, _, spells'⟩ := parseSubprotocolVersion_iff.1 parsed'
    cases Int.ofNat.inj equal
    exact same n spells spells' fits

/-- The supported version with a leading zero, a version beyond the column, and one version in
two spellings. -/
theorem rejected_offers_fail :
    ¬ Truthful "woodgate-station.v01" ∧ ¬ Truthful "woodgate-station.v2147483648" ∧
    (parseSubprotocolVersion "woodgate-station.v2" = some 2 ∧ parseSubprotocolVersion "woodgate-station.v+2" = some 2) ∧
    ∀ sha256Hex now k secret appBuild d,
      ∃ e, recordRejection sha256Hex now k secret (parseSubprotocolVersion "woodgate-station.v2147483648") appBuild d = .error e := by
  have first : parseSubprotocolVersion "woodgate-station.v01" = some 1 := by decide
  have large : parseSubprotocolVersion "woodgate-station.v2147483648" = some 2147483648 := by decide
  refine ⟨fun truthful => ?_, fun truthful => ?_, ⟨by decide, by decide⟩, fun sha256Hex now k secret appBuild d => ?_⟩
  · exact (truthful.version 1 first).2.2 rfl
  · exact absurd (truthful.version _ large).2.1 (by decide)
  · cases recorded : recordRejection sha256Hex now k secret (parseSubprotocolVersion "woodgate-station.v2147483648") appBuild d with
    | error e => exact ⟨e, rfl⟩
    | ok d' =>
      obtain ⟨_, _, _, rest⟩ := runStatements_cons_ok.1 recorded
      obtain ⟨_, _, upserted, _⟩ := runStatements_cons_ok.1 rest
      exact absurd ((encodeInteger_ok.1 upserted).1 _ large).2 (by decide)

/-- A later version and an offer without one are recorded as what they are. -/
theorem rejected_offers_later : Truthful "woodgate-station.v2" ∧ Truthful "woodgate-station.next" := by
  have two : parseSubprotocolVersion "woodgate-station.v2" = some 2 := by decide
  have none : parseSubprotocolVersion "woodgate-station.next" = none := by decide
  have no_number : ∀ n : Nat, Spells "woodgate-station.next" n → (n : Int) ≤ Go.maxInt64 → False := fun n spells fits =>
    absurd (none.symm.trans (parseSubprotocolVersion_iff.2 ⟨n, rfl, fits, spells⟩)) nofun
  have recorded := (@rejected_offers "woodgate-station.v2" "woodgate-station.next" (by decide) (by decide)).2
    ⟨fun n spells fits => ?_, fun n spells fits => (no_number n spells fits).elim,
      fun n _ spells fits => (no_number n spells fits).elim⟩
  · exact ⟨recorded.1, recorded.2.1⟩
  · have value := Option.some.inj (two.symm.trans (parseSubprotocolVersion_iff.2 ⟨n, rfl, fits, spells⟩))
    omega

end Offers

end Woodgate.Stations
