import Mathlib.Data.List.Pairwise
import Woodgate.Library.Runs

/-!
# The session transport

`createSessionTransport` wraps `fetch`. Its `generation` is bumped by every renewal and every
expiry; a response expires the session only if the generation is still the one its request
started with. Requests overlap and finish in any order, so the transport is a step function
over starts, responses and renewals. A call whose URL the platform's parser refuses is rejected
after its response.
-/

namespace Woodgate.Web.Session

open Library.Runs

section Model

/-- `input` and `init` of a call, as far as the transport reads them. -/
structure Input where
  url : String
  /-- `init?.method` -/
  method : Option String := none
  /-- `input.method`, if `input` is a `Request` -/
  requestMethod : Option String := none
  deriving DecidableEq, Repr

/-- What became of a call of `fetch`. -/
inductive Outcome where
  | pending
  /-- the call returned its response -/
  | completed (status : Nat)
  /-- the fetcher failed, or `new URL` threw -/
  | rejected
  deriving DecidableEq, Repr

structure Request where
  input : Input
  requestGeneration : Nat
  outcome : Outcome := .pending
  deriving DecidableEq, Repr

/-- The transport, with the requests in the order in which they started. -/
structure Transport where
  generation : Nat := 0
  requests : List Request := []
  /-- the requests at whose end `onExpired` was called, oldest first -/
  expiries : List Nat := []
  deriving DecidableEq, Repr

inductive Label where
  | renew
  | fetch (input : Input)
  | respond (id : Nat) (status : Nat)
  | reject (id : Nat)
  deriving DecidableEq, Repr

/-- The characters beyond ASCII whose upper case has a letter of ASCII in it. -/
def specialCasing : List (Char × String) :=
  [('ß', "SS"), ('ı', "I"), ('ŉ', "\u02bcN"), ('ſ', "S"), ('ǰ', "J\u030c"), ('ẖ', "H\u0331"), ('ẗ', "T\u0308"),
    ('ẘ', "W\u030a"), ('ẙ', "Y\u030a"), ('ẚ', "A\u02be"), ('ﬀ', "FF"), ('ﬁ', "FI"), ('ﬂ', "FL"), ('ﬃ', "FFI"),
    ('ﬄ', "FFL"), ('ﬅ', "ST"), ('ﬆ', "ST")]

/-- `toUpperCase()`, as far as its result is compared with a text of ASCII: of a character whose
upper case has no letter of ASCII the character itself stands for it. -/
def toUpperCase (s : String) : List Char :=
  s.toList.flatMap fun c => ((specialCasing.lookup c).map String.toList).getD [c.toUpper]

/-- A login is told by the path of its URL and by its method. -/
def isLogin (path : String) (input : Input) : Bool :=
  let method := (input.method.or input.requestMethod).getD "GET"
  decide (path = "/api/session") && decide (toUpperCase method = "POST".toList)

example : isLogin "/api/session" { url := "/api/session", method := some "po\ufb06" } = true := by decide

/-- The call is over. -/
def Transport.settle (s : Transport) (id : Nat) (request : Request) (outcome : Outcome) : Transport :=
  { s with requests := s.requests.set id { request with outcome } }

/-- `pathname` is that of `new URL(url, "https://local.invalid")`, if that does not throw. -/
def step (pathname : String → Option String) (s : Transport) : Label → Option Transport
  | .renew => some { s with generation := s.generation + 1 }
  | .fetch input => some { s with requests := s.requests ++ [{ input, requestGeneration := s.generation }] }
  | .respond id status => do
    let request ← s.requests[id]?
    guard (request.outcome = .pending)
    match pathname request.input.url with
    | none => some (s.settle id request .rejected)
    | some path =>
      let s := s.settle id request (.completed status)
      if !isLogin path request.input && decide (status = 401) && decide (request.requestGeneration = s.generation) then
        some { s with generation := s.generation + 1, expiries := s.expiries ++ [id] }
      else some s
  | .reject id => do
    let request ← s.requests[id]?
    guard (request.outcome = .pending)
    some (s.settle id request .rejected)

end Model

section Step

variable {pathname : String → Option String} {s s' : Transport} {id status : Nat}

/-- The response raises the expiry. -/
def Raises (s : Transport) (path : String) (request : Request) (status : Nat) : Prop :=
  isLogin path request.input = false ∧ status = 401 ∧ request.requestGeneration = s.generation

/-- A response raises the expiry, or nothing but its request changes; the latter also where the
URL has no path. -/
theorem respond_cases (h : step pathname s (.respond id status) = some s') :
    ∃ request, s.requests[id]? = some request ∧
      ((∃ path, pathname request.input.url = some path ∧ Raises s path request status ∧
          s' = { s.settle id request (.completed status) with
            generation := s.generation + 1, expiries := s.expiries ++ [id] }) ∨
        (∃ path, pathname request.input.url = some path ∧ ¬ Raises s path request status ∧
          s' = s.settle id request (.completed status)) ∨
        (pathname request.input.url = none ∧ s' = s.settle id request .rejected)) := by
  obtain ⟨request, found, h⟩ := Option.bind_eq_some_iff.1 h
  obtain ⟨_, _, h⟩ := Option.bind_eq_some_iff.1 h
  refine ⟨request, found, ?_⟩
  split at h
  · rename_i refused
    exact .inr (.inr ⟨refused, (Option.some.inj h).symm⟩)
  rename_i path parsed
  dsimp only at h
  have condition : (!isLogin path request.input && decide (status = 401) &&
      decide (request.requestGeneration = (s.settle id request (.completed status)).generation)) = true ↔
      Raises s path request status := by
    rw [Bool.and_eq_true, Bool.and_eq_true, decide_eq_true_eq, decide_eq_true_eq, Bool.not_eq_true', and_assoc]
    rfl
  split at h
  · rename_i raised
    exact .inl ⟨path, parsed, condition.1 raised, (Option.some.inj h).symm⟩
  · rename_i quiet
    exact .inr (.inl ⟨path, parsed, fun raised => quiet (condition.2 raised), (Option.some.inj h).symm⟩)

theorem reject_ok (h : step pathname s (.reject id) = some s') :
    ∃ request, s.requests[id]? = some request ∧ s' = s.settle id request .rejected := by
  obtain ⟨request, found, h⟩ := Option.bind_eq_some_iff.1 h
  obtain ⟨_, _, h⟩ := Option.bind_eq_some_iff.1 h
  exact ⟨request, found, (Option.some.inj h).symm⟩

/-- What a request started with. -/
def Started (s : Transport) (id : Nat) (input : Input) (generation : Nat) : Prop :=
  ∃ request, s.requests[id]? = some request ∧ request.input = input ∧ request.requestGeneration = generation

theorem Started.settle {input : Input} {generation other : Nat} {request : Request} {outcome : Outcome}
    (started : Started s id input generation) (found : s.requests[other]? = some request) :
    Started (s.settle other request outcome) id input generation := by
  obtain ⟨own, here, inputs, generations⟩ := started
  unfold Started Transport.settle
  rw [List.getElem?_set]
  by_cases same : other = id
  · subst same
    cases here.symm.trans found
    refine ⟨{ request with outcome }, ?_, inputs, generations⟩
    rw [if_pos rfl, if_pos (List.getElem?_eq_some_iff.1 found).1]
  · exact ⟨own, by rw [if_neg same, here], inputs, generations⟩

/-- A request keeps what it started with. -/
theorem Started.kept {input : Input} {generation : Nat} {label : Label} (started : Started s id input generation)
    (h : step pathname s label = some s') : Started s' id input generation := by
  cases label with
  | renew =>
    cases h
    exact started
  | fetch other =>
    cases h
    obtain ⟨own, here, rest⟩ := started
    exact ⟨own, List.getElem?_append_left (List.getElem?_eq_some_iff.1 here).1 ▸ here, rest⟩
  | respond other status =>
    obtain ⟨request, found, ⟨_, _, _, rfl⟩ | ⟨_, _, _, rfl⟩ | ⟨_, rfl⟩⟩ := respond_cases h
    · exact started.settle found
    · exact started.settle found
    · exact started.settle found
  | reject other =>
    obtain ⟨request, found, rfl⟩ := reject_ok h
    exact started.settle found

/-- The generation counts the renewals and the expiries. -/
theorem generation_step {label : Label} (h : step pathname s label = some s') :
    s'.generation + s.expiries.length = s.generation + s'.expiries.length + if label = .renew then 1 else 0 := by
  cases label with
  | renew =>
    cases h
    rw [if_pos rfl]
    exact Nat.add_right_comm s.generation 1 s.expiries.length
  | fetch other =>
    cases h
    rw [if_neg nofun]
    rfl
  | respond other status =>
    obtain ⟨request, found, ⟨_, _, _, rfl⟩ | ⟨_, _, _, rfl⟩ | ⟨_, rfl⟩⟩ := respond_cases h
    · rw [List.length_append, List.length_singleton, if_neg nofun]
      show s.generation + 1 + s.expiries.length = _
      omega
    · rw [if_neg nofun]
      rfl
    · rw [if_neg nofun]
      rfl
  | reject other =>
    obtain ⟨request, found, rfl⟩ := reject_ok h
    rw [if_neg nofun]
    rfl

/-- Expiries are only added. -/
theorem expiries_step {label : Label} (h : step pathname s label = some s') : s.expiries <+: s'.expiries := by
  cases label with
  | renew | fetch =>
    cases h
    exact List.prefix_refl _
  | respond other status =>
    obtain ⟨request, found, ⟨_, _, _, rfl⟩ | ⟨_, _, _, rfl⟩ | ⟨_, rfl⟩⟩ := respond_cases h
    · exact List.prefix_append _ _
    · exact List.prefix_refl _
    · exact List.prefix_refl _
  | reject other =>
    obtain ⟨request, found, rfl⟩ := reject_ok h
    exact List.prefix_refl _

end Step

section Run

variable {pathname : String → Option String} {s s' : Transport} {labels : List Label}

theorem Started.later {id : Nat} {input : Input} {generation : Nat} (started : Started s id input generation)
    (h : run (step pathname) s labels = some s') : Started s' id input generation :=
  run_invariant (fun s => Started s id input generation) (fun _ _ _ started stepped => started.kept stepped) started h

theorem expiries_run (h : run (step pathname) s labels = some s') : s.expiries <+: s'.expiries :=
  run_relates (fun _ => True) (fun s s' : Transport => s.expiries <+: s'.expiries) (fun _ _ _ _ _ => trivial)
    (fun _ => List.prefix_refl _) List.IsPrefix.trans (fun _ _ _ _ stepped => expiries_step stepped) trivial h

theorem generation_run (h : run (step pathname) s labels = some s') :
    s'.generation + s.expiries.length = s.generation + s'.expiries.length + labels.count .renew := by
  induction labels generalizing s with
  | nil =>
    cases h
    rfl
  | cons label labels ih =>
    obtain ⟨s₁, first, rest⟩ := run_cons_iff.1 h
    have here := generation_step first
    have later := ih rest
    rw [List.count_cons]
    simp only [beq_iff_eq]
    omega

/-- **The generation is the same exactly if there was neither a renewal nor an expiry.** -/
theorem generation_same_iff (h : run (step pathname) s labels = some s') :
    s'.generation = s.generation ↔ .renew ∉ labels ∧ s'.expiries = s.expiries := by
  have counted := generation_run h
  have added := expiries_run h
  have length := added.length_le
  rw [← List.count_eq_zero]
  constructor
  · intro same
    refine ⟨by omega, (added.eq_of_length ?_).symm⟩
    omega
  · rintro ⟨quiet, same⟩
    rw [same] at counted
    omega

theorem Started.unique {id : Nat} {input input' : Input} {generation generation' : Nat}
    (started : Started s id input generation) (started' : Started s id input' generation') :
    input = input' ∧ generation = generation' := by
  obtain ⟨own, here, rfl, rfl⟩ := started
  obtain ⟨own', there, rfl, rfl⟩ := started'
  cases here.symm.trans there
  exact ⟨rfl, rfl⟩

/-- The two did not start in one generation. -/
def Apart (s : Transport) (id id' : Nat) : Prop := ∀ input generation input' generation',
  Started s id input generation → Started s id' input' generation' → generation ≠ generation'

instance : Std.Symm (Apart s) where
  symm _ _ apart _ _ _ _ here there := (apart _ _ _ _ there here).symm

/-- The requests that expired a session started in different generations, all over now. -/
structure Ordered (s : Transport) : Prop where
  past : ∀ id ∈ s.expiries, ∃ input generation, Started s id input generation ∧ generation < s.generation
  apart : s.expiries.Pairwise (Apart s)

/-- A later state with the same expiries, in the same generation or a later one. -/
theorem Ordered.later (ordered : Ordered s) (le : s.generation ≤ s'.generation) (same : s'.expiries = s.expiries)
    (kept : ∀ id input generation, Started s id input generation → Started s' id input generation) : Ordered s' where
  past id mem := by
    obtain ⟨input, generation, started, lt⟩ := ordered.past id (same ▸ mem)
    exact ⟨input, generation, kept id input generation started, Nat.lt_of_lt_of_le lt le⟩
  apart := by
    rw [same]
    refine ordered.apart.imp_of_mem fun {id id'} mem mem' ne input generation input' generation' started started' => ?_
    obtain ⟨i, g, before, _⟩ := ordered.past id mem
    obtain ⟨i', g', before', _⟩ := ordered.past id' mem'
    rw [(started.unique (kept _ _ _ before)).2, (started'.unique (kept _ _ _ before')).2]
    exact ne i g i' g' before before'

theorem Ordered.kept {label : Label} (ordered : Ordered s) (h : step pathname s label = some s') : Ordered s' := by
  have kept : ∀ id input generation, Started s id input generation → Started s' id input generation :=
    fun _ _ _ started => started.kept h
  cases label with
  | renew =>
    cases h
    exact ordered.later (Nat.le_succ _) rfl kept
  | fetch other =>
    cases h
    exact ordered.later (Nat.le_refl _) rfl kept
  | respond other status =>
    obtain ⟨request, found, ⟨_, _, ⟨_, _, current⟩, rfl⟩ | ⟨_, _, _, rfl⟩ | ⟨_, rfl⟩⟩ := respond_cases h
    · have before : Ordered { s.settle other request (.completed status) with generation := s.generation + 1 } :=
        ordered.later (Nat.le_succ _) rfl fun _ _ _ started => started.settle found
      have own : Started (s.settle other request (.completed status)) other request.input s.generation :=
        Started.settle ⟨request, found, rfl, current⟩ found
      constructor
      · intro id mem
        rcases List.mem_append.1 mem with mem | mem
        · exact before.past id mem
        · cases List.mem_singleton.1 mem
          exact ⟨request.input, s.generation, own, Nat.lt_succ_self _⟩
      · refine List.pairwise_append.2 ⟨before.apart, List.pairwise_singleton _ _, fun id mem id' mem' => ?_⟩
        cases List.mem_singleton.1 mem'
        intro input generation input' generation' started started'
        obtain ⟨i, g, earlier, lt⟩ := ordered.past id mem
        have old := (started.unique (kept _ _ _ earlier)).2
        have new := (started'.unique own).2
        omega
    · exact ordered.later (Nat.le_refl _) rfl kept
    · exact ordered.later (Nat.le_refl _) rfl kept
  | reject other =>
    obtain ⟨request, found, rfl⟩ := reject_ok h
    exact ordered.later (Nat.le_refl _) rfl kept

theorem Ordered.init : Ordered {} where
  past _ mem := absurd mem List.not_mem_nil
  apart := List.Pairwise.nil

/-- Two requests of one generation expire a session at most once. -/
theorem Ordered.not_both {id id' : Nat} {input input' : Input} {generation : Nat} (ordered : Ordered s)
    (started : Started s id input generation) (started' : Started s id' input' generation) (ne : id ≠ id') :
    ¬ (id ∈ s.expiries ∧ id' ∈ s.expiries) := by
  rintro ⟨mem, mem'⟩
  exact ordered.apart.forall mem mem' ne _ _ _ _ started started' rfl

end Run

section Expiry

variable (pathname : String → Option String)

/-- Between the start of request `id` and a later moment. -/
structure During (id : Nat) (input : Input) (between : List Label) (s s' : Transport) : Prop where
  reached : ∃ before s₀, run (step pathname) {} before = some s₀ ∧ step pathname s₀ (.fetch input) = some s ∧
    id = s₀.requests.length
  lasts : run (step pathname) s between = some s'

end Expiry

section Expiry

variable {pathname : String → Option String} {id : Nat} {input : Input} {between : List Label} {s s' : Transport}

theorem During.started (during : During pathname id input between s s') : Started s' id input s.generation := by
  obtain ⟨_, s₀, _, started, rfl⟩ := during.reached
  cases started
  exact Started.later ⟨_, List.getElem?_concat_length, rfl, rfl⟩ during.lasts

theorem During.ordered (during : During pathname id input between s s') : Ordered s' := by
  obtain ⟨_, s₀, reached, started, _⟩ := during.reached
  have first : Ordered s₀ := run_invariant Ordered (fun _ _ _ ordered stepped => ordered.kept stepped) Ordered.init reached
  exact run_invariant Ordered (fun _ _ _ ordered stepped => ordered.kept stepped) (first.kept started) during.lasts

/-- **When a call expires the session**: it gets a response with status 401, is no login, and
neither a renewal nor an expiry happened since it started. A call whose URL has no path is rejected
and expires nothing, as does every other step. Of requests without a renewal or an expiry between
their starts at most one expires a session. -/
theorem session_expiry (pathname : String → Option String) :
    (∀ id input between s s' status s'', During pathname id input between s s' →
      step pathname s' (.respond id status) = some s'' →
      (∀ path, pathname input.url = some path → s''.expiries =
        if status = 401 ∧ isLogin path input = false ∧ .renew ∉ between ∧ s'.expiries = s.expiries then
          s'.expiries ++ [id] else s'.expiries) ∧
      (pathname input.url = none → s''.expiries = s'.expiries ∧
        ∃ request, s''.requests[id]? = some request ∧ request.outcome = .rejected)) ∧
    (∀ s label s', step pathname s label = some s' → (∀ id status, label ≠ .respond id status) →
      s'.expiries = s.expiries) ∧
    ∀ id input between s s₁ id' input' between' s' s'', During pathname id input between s s₁ →
      .renew ∉ between → s₁.expiries = s.expiries → step pathname s₁ (.fetch input') = some s' → id' = s₁.requests.length →
      run (step pathname) s' between' = some s'' → ¬ (id ∈ s''.expiries ∧ id' ∈ s''.expiries) := by
  refine ⟨?_, ?_, ?_⟩
  · intro id input between s s' status s'' during h
    obtain ⟨own, here, inputs, generations⟩ := during.started
    have same := generation_same_iff during.lasts
    obtain ⟨request, found, answer⟩ := respond_cases h
    cases here.symm.trans found
    have raises : ∀ path, Raises s' path own status ↔
        isLogin path input = false ∧ status = 401 ∧ .renew ∉ between ∧ s'.expiries = s.expiries := by
      intro path
      rw [Raises, inputs, generations, eq_comm (a := s.generation), same]
    rw [inputs] at answer
    rcases answer with ⟨path, parsed, raised, rfl⟩ | ⟨path, parsed, quiet, rfl⟩ | ⟨refused, rfl⟩
    · refine ⟨fun path' parsed' => ?_, fun refused => absurd (parsed.symm.trans refused) nofun⟩
      cases parsed.symm.trans parsed'
      obtain ⟨login, unauthorized, lasting⟩ := (raises path).1 raised
      rw [if_pos ⟨unauthorized, login, lasting⟩]
    · refine ⟨fun path' parsed' => ?_, fun refused => absurd (parsed.symm.trans refused) nofun⟩
      cases parsed.symm.trans parsed'
      rw [if_neg fun raised => quiet ((raises path).2 ⟨raised.2.1, raised.1, raised.2.2⟩)]
      rfl
    · refine ⟨fun path parsed => absurd (parsed.symm.trans refused) nofun, fun _ => ⟨rfl, { own with outcome := .rejected }, ?_, rfl⟩⟩
      exact List.getElem?_set_self (List.getElem?_eq_some_iff.1 here).1
  · intro s label s' h other
    cases label with
    | renew | fetch =>
      cases h
      rfl
    | respond id status => exact absurd rfl (other id status)
    | reject id =>
      obtain ⟨request, _, rfl⟩ := reject_ok h
      rfl
  · intro id input between s s₁ id' input' between' s' s'' during quiet same started own later
    have first := during.started
    have generation := (generation_same_iff during.lasts).2 ⟨quiet, same⟩
    cases started
    have second : Started { s₁ with requests := s₁.requests ++ [{ input := input', requestGeneration := s₁.generation }] }
        id' input' s.generation := ⟨_, own ▸ List.getElem?_concat_length, rfl, generation⟩
    have next : step pathname s₁ (.fetch input') = some _ := rfl
    have ordered := run_invariant Ordered (fun _ _ _ ordered stepped => ordered.kept stepped) (during.ordered.kept next) later
    have ne : id ≠ id' := by
      obtain ⟨_, here, _⟩ := during.started
      have := (List.getElem?_eq_some_iff.1 here).1
      omega
    exact ordered.not_both ((first.kept next).later later) (second.later later) ne

end Expiry

section Samples

/-- The path of this URL is the URL itself. -/
def read : Input where
  url := "/api/users"

/-- Two requests overlap, both are refused, the session expires once. -/
theorem session_expiry_overlapping :
    (run (step some) {} [.fetch read, .fetch read, .respond 0 401, .respond 1 401]).map Transport.expiries = some [0] := by
  have second := ((session_expiry some).1 1 read [.respond 0 401] _ _ 401 _ ⟨⟨[.fetch read], _, rfl, rfl, rfl⟩, rfl⟩ rfl).1 _ rfl
  exact congrArg some (second.trans (by decide))

end Samples

end Woodgate.Web.Session
