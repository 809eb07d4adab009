import Signoff.Fetch
import Signoff.Fixture
import Signoff.Proofs.Url.Reference

namespace Signoff

namespace Fetch

/-! What a guarded fetch does to the network. It goes from hop to hop; each hop asks for its
addresses at most once and connects to none but the ones that it was told, all of them public. -/

/-- The addresses of a host: its own, or the answer to a lookup at this moment. -/
def answer (network : Network) (before : Trace) : Host → Except String (List Address)
  | .address address => .ok [address]
  | .name text => network.resolve before text

def lookups : Host → Trace
  | .address _ => []
  | .name text => [.lookup text]

structure Hop where
  url : Url
  before : Trace
  events : Trace

namespace Hop

/-- Some address of the host is not public. -/
def Blocked (network : Network) (hop : Hop) : Prop :=
  ∃ addresses, answer network hop.before hop.url.host = .ok addresses ∧
    ∃ address ∈ addresses, address.isForbidden = true

structure MayTry (network : Network) (hop : Hop) (endpoint : Endpoint) : Prop where
  isPublic : endpoint.address.isForbidden = false
  port_eq : endpoint.port = hop.url.port
  isAnswer : ∃ addresses, answer network hop.before hop.url.host = .ok addresses ∧
    endpoint.address ∈ addresses ∧ ∀ address ∈ addresses, address.isForbidden = false

/-- At most one lookup comes first, then attempts to connect, and then at most one request. -/
def Guarded (network : Network) (hop : Hop) : Prop :=
  ∃ (tried : List Endpoint) (requested : Trace),
    hop.events = lookups hop.url.host ++ tried.map .connect ++ requested ∧
      (∀ endpoint ∈ tried, hop.MayTry network endpoint) ∧
      (requested = [] ∨ requested = [.request hop.url] ∧ tried ≠ [])

structure Leads (network : Network) (hop next : Hop) : Prop where
  isPublic : ¬ hop.Blocked network
  before_eq : next.before = hop.before ++ hop.events
  redirect : ∃ location, target hop.url location = .ok next.url ∧
    (Url.declaredScheme? location).getD hop.url.scheme.name = next.url.scheme.name

theorem blocked_iff {network : Network} {hop : Hop} {addresses : List Address}
    (hanswer : answer network hop.before hop.url.host = .ok addresses) :
    hop.Blocked network ↔ ∃ address ∈ addresses, address.isForbidden = true := by
  constructor
  · rintro ⟨others, hothers, hsome⟩
    rw [hanswer, Except.ok.injEq] at hothers
    exact hothers ▸ hsome
  · intro hsome
    exact ⟨addresses, hanswer, hsome⟩

theorem not_blocked {network : Network} {hop : Hop} {addresses : List Address}
    (hanswer : answer network hop.before hop.url.host = .ok addresses)
    (hpublic : ∀ address ∈ addresses, address.isForbidden = false) : ¬ hop.Blocked network := by
  intro hblocked
  obtain ⟨address, hmem, hforbidden⟩ := (blocked_iff hanswer).mp hblocked
  rw [hpublic address hmem] at hforbidden
  cases hforbidden

theorem Guarded.events_of_blocked {network : Network} {hop : Hop} (hguarded : hop.Guarded network)
    (hblocked : hop.Blocked network) : hop.events = lookups hop.url.host := by
  obtain ⟨tried, requested, hevents, hmay, hrequested⟩ := hguarded
  have hnone : tried = [] := by
    cases tried with
    | nil => rfl
    | cons endpoint tried =>
        obtain ⟨addresses, hanswer, _, hpublic⟩ := (hmay endpoint (by simp)).isAnswer
        exact absurd hblocked (not_blocked hanswer hpublic)
  rcases hrequested with hempty | ⟨_, hsome⟩
  · simpa [hnone, hempty] using hevents
  · exact absurd hnone hsome

end Hop

def Route (network : Network) : List Hop → Prop
  | hop :: next :: rest => hop.Leads network next ∧ Route network (next :: rest)
  | _ => True

variable {network : Network} {options : FetchOptions}

theorem resolve_readable (network : Network) {host : Host} (hreadable : host.Readable)
    (port : UInt16) (trace : Trace) :
    Guard.resolve network host.text port trace =
      ((match answer network trace host with
        | .ok addresses => Guard.approve host.text (addresses.map (⟨·, port⟩))
        | .error reason => .error (.unresolved host.text reason)), trace ++ lookups host) := by
  cases host with
  | address address =>
      simp [Guard.resolve, Host.parse?_address, answer, lookups]
  | name text =>
      obtain ⟨hbare, hparse, hnul⟩ := hreadable.bare_name
      simp only [Guard.resolve, Host.text, hbare, hparse, hnul, if_false, Network.lookUp, answer,
        lookups]
      split <;> simp_all

theorem approve_eq_ok {host : String} {addresses : List Address} {port : UInt16}
    {found : List Endpoint}
    (happrove : Guard.approve host (addresses.map (⟨·, port⟩)) = .ok found) :
    found = addresses.map (⟨·, port⟩) ∧ ∀ address ∈ addresses, address.isForbidden = false := by
  simp only [Guard.approve] at happrove
  split at happrove
  · cases happrove
  · split at happrove
    · cases happrove
    · next hnone =>
        cases happrove
        refine ⟨rfl, fun address hmem => ?_⟩
        have hpublic := List.find?_eq_none.mp hnone ⟨address, port⟩
          (List.mem_map.mpr ⟨address, hmem, rfl⟩)
        simpa [Guard.isForbidden] using hpublic

theorem approve_of_forbidden (host : String) {addresses : List Address} (port : UInt16)
    (hsome : ∃ address ∈ addresses, address.isForbidden = true) :
    ∃ address, address.isForbidden = true ∧
      Guard.approve host (addresses.map (⟨·, port⟩)) = .error (.forbidden host address) := by
  obtain ⟨address, hmem, hforbidden⟩ := hsome
  have hendpoint : (⟨address, port⟩ : Endpoint) ∈ addresses.map (⟨·, port⟩) :=
    List.mem_map.mpr ⟨address, hmem, rfl⟩
  simp only [Guard.approve]
  split
  · next hempty => simp [hempty] at hendpoint
  · split
    · next found hfound =>
        have hfoundForbidden : Guard.isForbidden found = true := List.find?_some hfound
        exact ⟨found.address, hfoundForbidden, rfl⟩
    · next hnone => exact absurd hforbidden (List.find?_eq_none.mp hnone _ hendpoint)

theorem endpoints_guarded (network : Network) (hguard : options.skipGuard = false) {url : Url}
    (hreadable : url.host.Readable) (trace : Trace) :
    ∃ result, endpoints network options url trace = (result, trace ++ lookups url.host) ∧
      (∀ found, result = .ok found → ∃ addresses, answer network trace url.host = .ok addresses ∧
        (∀ address ∈ addresses, address.isForbidden = false) ∧
        found = addresses.map (⟨·, url.port⟩)) ∧
      (Hop.Blocked network ⟨url, trace, []⟩ → ∃ address, address.isForbidden = true ∧
        result = .error (.forbidden url.host.text address)) := by
  have hresolve := resolve_readable network hreadable url.port trace
  simp only [endpoints, hguard, Bool.false_eq_true, if_false]
  cases hanswer : answer network trace url.host with
  | error reason =>
      simp only [hanswer] at hresolve
      refine ⟨.error (.unresolved url.host.text reason), by rw [hresolve], by simp, ?_⟩
      rintro ⟨addresses, hfound, _⟩
      rw [hanswer] at hfound
      cases hfound
  | ok addresses =>
      simp only [hanswer] at hresolve
      cases happrove : Guard.approve url.host.text (addresses.map (⟨·, url.port⟩)) with
      | error cause =>
          rw [happrove] at hresolve
          refine ⟨.error cause, by rw [hresolve], by simp, ?_⟩
          intro hblocked
          rw [← happrove]
          exact approve_of_forbidden url.host.text url.port ((Hop.blocked_iff hanswer).mp hblocked)
      | ok approved =>
          obtain ⟨rfl, hpublic⟩ := approve_eq_ok happrove
          rw [happrove] at hresolve
          refine ⟨if canRequest url then .ok (addresses.map (⟨·, url.port⟩)) else .error .network,
            by rw [hresolve], ?_, fun hblocked => ?_⟩
          · intro found hfound
            split at hfound
            · cases hfound
              exact ⟨addresses, rfl, hpublic, rfl⟩
            · cases hfound
          · exact absurd hblocked (Hop.not_blocked hanswer hpublic)

theorem mem_byFamily {endpoints : List Endpoint} {endpoint : Endpoint}
    (hmem : endpoint ∈ byFamily endpoints) : endpoint ∈ endpoints := by
  cases endpoints with
  | nil => exact hmem
  | cons first rest =>
      simp only [byFamily] at hmem
      rcases List.mem_append.mp hmem with hfamily | hother
      · exact (List.mem_filter.mp hfamily).1
      · exact (List.mem_filter.mp hother).1

theorem connect_tries (network : Network) (endpoints : List Endpoint) (trace : Trace) :
    ∃ tried : List Endpoint, (network.connect endpoints trace).2 = trace ++ tried.map .connect ∧
      tried ⊆ endpoints ∧ ((network.connect endpoints trace).1.isSome → tried ≠ []) := by
  induction endpoints generalizing trace with
  | nil => exact ⟨[], by simp [Network.connect], List.Subset.refl [], by simp [Network.connect]⟩
  | cons endpoint rest ih =>
      simp only [Network.connect]
      split
      · exact ⟨[endpoint], rfl, by simp, by simp⟩
      · obtain ⟨tried, htrace, hsubset, _⟩ := ih (trace ++ [.connect endpoint])
        refine ⟨endpoint :: tried, ?_, ?_, by simp⟩
        · rw [htrace]
          simp
        · exact List.cons_subset_cons endpoint hsubset

theorem exchange_requests (network : Network) (options : FetchOptions) (url : Url)
    (endpoint : Endpoint) (trace : Trace) :
    ∃ requested, (exchange network options url endpoint trace).2 = trace ++ requested ∧
      (requested = [] ∨ requested = [.request url]) := by
  simp only [exchange]
  split
  · exact ⟨[], by simp, .inl rfl⟩
  · refine ⟨[.request url], ?_, .inr rfl⟩
    cases hreply : network.reply trace url <;> simp [Network.send, hreply]

theorem connected_events (network : Network) (options : FetchOptions) (url : Url)
    (found : List Endpoint) (trace : Trace) :
    ∃ (tried : List Endpoint) (requested : Trace),
      (match network.connect (byFamily found) trace with
        | (none, after) => (Except.error FetchError.network, after)
        | (some endpoint, after) => exchange network options url endpoint after).2 =
          trace ++ tried.map .connect ++ requested ∧
        tried ⊆ found ∧ (requested = [] ∨ requested = [.request url] ∧ tried ≠ []) := by
  obtain ⟨tried, htrace, hsubset, hsome⟩ := connect_tries network (byFamily found) trace
  have hfound : tried ⊆ found := fun endpoint hmem => mem_byFamily (hsubset hmem)
  cases hconnect : network.connect (byFamily found) trace with
  | mk chosen after =>
      rw [hconnect] at htrace hsome
      cases chosen with
      | none => exact ⟨tried, [], by simpa using htrace, hfound, .inl rfl⟩
      | some endpoint =>
          obtain ⟨requested, hexchange, hrequested⟩ :=
            exchange_requests network options url endpoint after
          refine ⟨tried, requested, ?_, hfound, ?_⟩
          · rw [hexchange, ← htrace]
          · rcases hrequested with hempty | hone
            · exact .inl hempty
            · exact .inr ⟨hone, hsome rfl⟩

theorem hop_guarded (network : Network) (hguard : options.skipGuard = false) {url : Url}
    (hreadable : url.host.Readable) (before : Trace) :
    ∃ events, (hop network options url before).2 = before ++ events ∧
      Hop.Guarded network ⟨url, before, events⟩ ∧
      (Hop.Blocked network ⟨url, before, events⟩ → ∃ address, address.isForbidden = true ∧
        (hop network options url before).1 = .error (.forbidden url.host.text address)) := by
  obtain ⟨result, hendpoints, hfound, hblocked⟩ :=
    endpoints_guarded network hguard hreadable before
  simp only [hop, hendpoints]
  cases result with
  | error cause =>
      refine ⟨lookups url.host, rfl, ⟨[], [], by simp⟩, ?_⟩
      intro hsome
      obtain ⟨address, hforbidden, herror⟩ := hblocked hsome
      exact ⟨address, hforbidden, congrArg Except.error (Except.error.inj herror)⟩
  | ok found =>
      obtain ⟨addresses, hanswer, hpublic, rfl⟩ := hfound found rfl
      obtain ⟨tried, requested, htrace, hsubset, hrequested⟩ := connected_events network options url
        (addresses.map (⟨·, url.port⟩)) (before ++ lookups url.host)
      refine ⟨lookups url.host ++ tried.map .connect ++ requested, ?_,
        ⟨tried, requested, rfl, fun endpoint hmem => ?_, hrequested⟩, fun hsome => ?_⟩
      · refine htrace.trans ?_
        simp only [List.append_assoc]
      · obtain ⟨address, haddress, rfl⟩ := List.mem_map.mp (hsubset hmem)
        exact ⟨hpublic address haddress, rfl, addresses, hanswer, haddress, hpublic⟩
      · exact absurd hsome (Hop.not_blocked hanswer hpublic)

theorem target_eq_ok {url next : Url} {location : String} (hreadable : url.host.Readable)
    (htarget : target url location = .ok next) :
    next.host.Readable ∧
      (Url.declaredScheme? location).getD url.scheme.name = next.scheme.name := by
  simp only [target] at htarget
  split at htarget
  · cases htarget
  · cases htarget
  · next hjoin =>
      cases htarget
      exact Url.join_eq_web hreadable hjoin

def onward? (url : Url) : Except FetchError Response → Option Url
  | .error _ => none
  | .ok response =>
    if response.isRedirect then
      (response.header? "location").bind fun location => (target url location).toOption
    else none

def visit (network : Network) (options : FetchOptions) (url : Url) (before : Trace) : Hop :=
  ⟨url, before, (hop network options url before).2.drop before.length⟩

def trail (network : Network) (options : FetchOptions) : (remaining : Nat) → Url → Trace → List Hop
  | 0, url, before => [visit network options url before]
  | remaining + 1, url, before =>
    let (result, after) := hop network options url before
    visit network options url before ::
      match onward? url result with
      | some next => trail network options remaining next after
      | none => []

def hops (network : Network) (options : FetchOptions) (source : String) (before : Trace) :
    List Hop :=
  if options.algorithm = .md5 then []
  else
    match Url.parse source with
    | .ok (.web url) => trail network options options.maxRedirects url before
    | _ => []

theorem onward?_eq_some {url next : Url} {result : Except FetchError Response}
    (honward : onward? url result = some next) :
    ∃ response location, result = .ok response ∧ response.isRedirect = true ∧
      response.header? "location" = some location ∧ target url location = .ok next := by
  cases result with
  | error cause => cases honward
  | ok response =>
      simp only [onward?] at honward
      split at honward
      · next hredirect =>
          obtain ⟨location, hheader, htarget⟩ := Option.bind_eq_some_iff.mp honward
          refine ⟨response, location, rfl, hredirect, hheader, ?_⟩
          cases hfound : target url location with
          | error cause => simp [hfound, Except.toOption] at htarget
          | ok found =>
              simp only [hfound, Except.toOption, Option.some.injEq] at htarget
              rw [htarget]
      · cases honward

theorem follow_zero (network : Network) (options : FetchOptions) (url : Url) (before : Trace) :
    (follow network options 0 url before).2 = (hop network options url before).2 ∧
      ∀ cause, (hop network options url before).1 = .error cause →
        (follow network options 0 url before).1 = .error cause := by
  rw [follow]
  cases hop network options url before with
  | mk result after =>
      cases result with
      | error cause => simp
      | ok response =>
          by_cases hredirect : response.isRedirect = true
          · cases hheader : response.header? "location" <;> simp [hredirect, hheader]
          · simp [hredirect]

theorem follow_succ_of_none (remaining : Nat) {url : Url} {before : Trace}
    (honward : onward? url (hop network options url before).1 = none) :
    (follow network options (remaining + 1) url before).2 = (hop network options url before).2 ∧
      ∀ cause, (hop network options url before).1 = .error cause →
        (follow network options (remaining + 1) url before).1 = .error cause := by
  rw [follow]
  generalize hop network options url before = hopped at honward
  obtain ⟨result, after⟩ := hopped
  cases result with
  | error cause => simp
  | ok response =>
      simp only [onward?] at honward
      by_cases hredirect : response.isRedirect = true
      · rw [if_pos hredirect] at honward
        cases hheader : response.header? "location" with
        | none => simp [hredirect, hheader]
        | some location =>
            cases htarget : target url location with
            | error cause => simp [hredirect, hheader, htarget]
            | ok next => simp [hheader, htarget, Except.toOption] at honward
      · simp [hredirect]

theorem follow_succ_of_some (remaining : Nat) {url next : Url} {before : Trace}
    (honward : onward? url (hop network options url before).1 = some next) :
    follow network options (remaining + 1) url before =
      follow network options remaining next (hop network options url before).2 := by
  obtain ⟨response, location, hresult, hredirect, hheader, htarget⟩ := onward?_eq_some honward
  rw [follow]
  generalize hop network options url before = hopped at hresult
  obtain ⟨result, after⟩ := hopped
  subst hresult
  simp only [hredirect, if_true]
  rw [hheader]
  simp only [htarget]

/-- What the hops of a fetch say about its outcome. They make up all that it did, and one that is
blocked is the last, has connected to nothing, and is why the fetch fails. -/
structure Accounts {α : Type} (network : Network) (hops : List Hop) (before : Trace)
    (outcome : Except FetchError α × Trace) : Prop where
  guarded : ∀ hop ∈ hops, hop.Guarded network
  route : Route network hops
  trace_eq : outcome.2 = before ++ hops.flatMap (·.events)
  refusal : ∀ hop ∈ hops, hop.Blocked network →
    hops.getLast? = some hop ∧ hop.events = lookups hop.url.host ∧
      ∃ address, address.isForbidden = true ∧
        outcome.1 = .error (.forbidden hop.url.host.text address)

theorem visit_guarded (network : Network) (hguard : options.skipGuard = false) {url : Url}
    (hreadable : url.host.Readable) (before : Trace) :
    (hop network options url before).2 = before ++ (visit network options url before).events ∧
      (visit network options url before).Guarded network ∧
      ((visit network options url before).Blocked network → ∃ address,
        address.isForbidden = true ∧
          (hop network options url before).1 = .error (.forbidden url.host.text address)) := by
  obtain ⟨events, htrace, hguarded, hblocked⟩ := hop_guarded network hguard hreadable before
  have hvisit : visit network options url before = ⟨url, before, events⟩ := by
    simp [visit, htrace]
  rw [hvisit]
  exact ⟨htrace, hguarded, hblocked⟩

theorem accounts_last (network : Network) (hguard : options.skipGuard = false) {url : Url}
    (hreadable : url.host.Readable) {before : Trace} {outcome : Except FetchError Response × Trace}
    (htrace : outcome.2 = (hop network options url before).2)
    (herror : ∀ cause, (hop network options url before).1 = .error cause →
      outcome.1 = .error cause) :
    Accounts network [visit network options url before] before outcome := by
  obtain ⟨hevents, hguarded, hblocked⟩ := visit_guarded network hguard hreadable before
  refine ⟨?_, trivial, ?_, ?_⟩
  · intro last hmem
    rw [List.mem_singleton.mp hmem]
    exact hguarded
  · rw [htrace, hevents]
    simp
  · intro last hmem hlast
    obtain rfl := List.mem_singleton.mp hmem
    obtain ⟨address, hforbidden, hresult⟩ := hblocked hlast
    exact ⟨rfl, hguarded.events_of_blocked hlast, address, hforbidden, herror _ hresult⟩

theorem Accounts.cons {α : Type} {first next : Hop} {rest : List Hop}
    {outcome : Except FetchError α × Trace} (hguarded : first.Guarded network)
    (hleads : first.Leads network next)
    (haccounts : Accounts network (next :: rest) (first.before ++ first.events) outcome) :
    Accounts network (first :: next :: rest) first.before outcome := by
  refine ⟨List.forall_mem_cons.mpr ⟨hguarded, haccounts.guarded⟩, ⟨hleads, haccounts.route⟩,
    ?_, ?_⟩
  · rw [haccounts.trace_eq]
    simp
  · intro hop hmem hblocked
    rcases List.mem_cons.mp hmem with rfl | hlater
    · exact absurd hblocked hleads.isPublic
    · rw [List.getLast?_cons_cons]
      exact haccounts.refusal hop hlater hblocked

theorem trail_eq_cons (network : Network) (options : FetchOptions) (remaining : Nat) (url : Url)
    (before : Trace) :
    ∃ rest, trail network options remaining url before =
      visit network options url before :: rest := by
  cases remaining with
  | zero => exact ⟨[], rfl⟩
  | succ remaining => exact ⟨_, rfl⟩

theorem follow_accounts (network : Network) (hguard : options.skipGuard = false)
    (remaining : Nat) {url : Url} (hreadable : url.host.Readable) (before : Trace) :
    Accounts network (trail network options remaining url before) before
      (follow network options remaining url before) := by
  -- What each hop hands on to the next is that its host was read from a text.
  induction remaining generalizing url before with
  | zero =>
      obtain ⟨htrace, herror⟩ := follow_zero network options url before
      exact accounts_last network hguard hreadable htrace herror
  | succ remaining ih =>
      cases honward : onward? url (hop network options url before).1 with
      | none =>
          obtain ⟨htrace, herror⟩ := follow_succ_of_none remaining honward
          simp only [trail, honward]
          exact accounts_last network hguard hreadable htrace herror
      | some next =>
          obtain ⟨response, location, hresponse, _, _, htarget⟩ := onward?_eq_some honward
          obtain ⟨hnext, hscheme⟩ := target_eq_ok hreadable htarget
          obtain ⟨hevents, hguarded, hblocked⟩ := visit_guarded network hguard hreadable before
          obtain ⟨rest, hrest⟩ := trail_eq_cons network options remaining next
            (hop network options url before).2
          have hopen : ¬ (visit network options url before).Blocked network := by
            intro hsome
            obtain ⟨address, _, herror⟩ := hblocked hsome
            rw [hresponse] at herror
            cases herror
          have hleads : (visit network options url before).Leads network
              (visit network options next (hop network options url before).2) :=
            ⟨hopen, hevents, location, htarget, hscheme⟩
          have haccounts := ih hnext (hop network options url before).2
          rw [hrest, hevents] at haccounts
          rw [follow_succ_of_some remaining honward]
          simp only [trail, honward]
          rw [hrest, hevents]
          rw [hevents] at hleads
          exact Accounts.cons hguarded hleads haccounts

theorem Accounts.mapResult {α β : Type} {hops : List Hop} {before : Trace}
    {outcome : Except FetchError α × Trace} (haccounts : Accounts network hops before outcome)
    (read : α → Except FetchError β) :
    Accounts network hops before (outcome.1.bind read, outcome.2) := by
  refine ⟨haccounts.guarded, haccounts.route, haccounts.trace_eq, fun hop hmem hblocked => ?_⟩
  obtain ⟨hlast, hevents, address, hforbidden, hresult⟩ := haccounts.refusal hop hmem hblocked
  exact ⟨hlast, hevents, address, hforbidden, by rw [hresult]; rfl⟩

theorem Accounts.nil {α : Type} (network : Network) (before : Trace)
    (result : Except FetchError α) : Accounts network [] before (result, before) :=
  ⟨by simp, trivial, by simp, by simp⟩

theorem compute_web {source : String} {url : Url} (halgorithm : options.algorithm ≠ .md5)
    (hparse : Url.parse source = .ok (.web url)) (before : Trace) :
    compute network options source before =
      let outcome := follow network options options.maxRedirects url before
      (outcome.1.bind (digestSuccess options), outcome.2) := by
  simp only [compute, halgorithm, if_false, hparse]
  split <;> simp_all [Except.bind]

/-- A guarded fetch connects to no address but the public ones that its hops were told, each by
at most one lookup, and it makes requests over web schemes alone. An address that is not public,
wherever it stands in an answer, ends the fetch before the hop connects. -/
theorem compute_guarded (network : Network) (hguard : options.skipGuard = false)
    (source : String) (before : Trace) :
    Accounts network (hops network options source before) before
        (compute network options source before) ∧
      ∀ first, (hops network options source before).head? = some first →
        first.before = before ∧ Url.parse source = .ok (.web first.url) ∧
          Url.declaredScheme? source = some first.url.scheme.name := by
  by_cases halgorithm : options.algorithm = .md5
  · simp only [hops, compute, halgorithm, if_true]
    exact ⟨Accounts.nil network before _, by simp⟩
  · cases hparse : Url.parse source with
    | error cause =>
        simp only [hops, compute, halgorithm, if_false, hparse]
        exact ⟨Accounts.nil network before _, by simp⟩
    | ok reference =>
        cases reference with
        | foreign scheme =>
            simp only [hops, compute, halgorithm, if_false, hparse]
            exact ⟨Accounts.nil network before _, by simp⟩
        | web url =>
            obtain ⟨hreadable, hscheme⟩ := Url.parse_eq_web hparse
            obtain ⟨rest, hrest⟩ :=
              trail_eq_cons network options options.maxRedirects url before
            rw [compute_web halgorithm hparse]
            simp only [hops, halgorithm, if_false, hparse]
            refine ⟨(follow_accounts network hguard _ hreadable before).mapResult _, ?_⟩
            intro first hfirst
            rw [hrest, List.head?_cons, Option.some.injEq] at hfirst
            subst hfirst
            exact ⟨rfl, rfl, hscheme⟩

/-- Every server sends its visitors on to the loopback address inside an IPv6 one. -/
def luring : Network where
  resolve _ _ := .ok []
  accepts _ _ := true
  secures _ _ := true
  reply _ _ := .response
    { status := 302
      headers := [("Location", "//[::ffff:127.0.0.1]/".toUTF8.toList)]
      framing := .untilClose
      chunks := []
      ending := .finished }

def guardedOptions : FetchOptions := { Fixture.localOptions with skipGuard := false }

theorem compute_guarded_luring :
    let source := "http://[2606:4700::1111]/a"
    let outcome := compute luring guardedOptions source []
    let hops := hops luring guardedOptions source []
    guardedOptions.skipGuard = false ∧ Accounts luring hops [] outcome ∧
      (∀ first, hops.head? = some first → first.before = [] ∧
        Url.parse source = .ok (.web first.url) ∧
          Url.declaredScheme? source = some first.url.scheme.name) ∧
      hops.map (·.url.host.text) = ["[2606:4700::1111]", "[::ffff:7f00:1]"] ∧
      outcome.2.connects = [⟨.v6 0x26064700000000000000000000001111, 80⟩] ∧
      outcome.1.toOption = none := by
  intro source outcome hops
  have hguard : guardedOptions.skipGuard = false := rfl
  obtain ⟨haccounts, hfirst⟩ := compute_guarded luring hguard source []
  have hrun : hops.map (·.url.host.text) = ["[2606:4700::1111]", "[::ffff:7f00:1]"] ∧
      outcome.2.connects = [⟨.v6 0x26064700000000000000000000001111, 80⟩] ∧
      outcome.1.toOption = none := by
    decide +kernel
  exact ⟨hguard, haccounts, hfirst, hrun⟩

end Fetch

end Signoff
