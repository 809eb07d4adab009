import Signoff.Proofs.Fetch.Guard

namespace Signoff

namespace Fetch

/-! The requests of a fetch, as they stand in its trace. Whether a host is asked at all is settled
by the network and the guard: by what a lookup tells, by which endpoints accept, and by whether a
channel can be secured. -/

/-- A request, with all that happened before it was sent. -/
structure Sent where
  url : Url
  before : Trace

namespace Sent

variable (network : Network) (options : FetchOptions) (request : Sent)

def after : Trace := request.before ++ [.request request.url]

def reply : Reply := network.reply request.before request.url

def received : Except FetchError Response :=
  match request.reply network with
  | .response response => .ok response
  | .dropped => .error .network
  | .silent => .error (.timeout options.timeout)

/-- The answer is a redirect, and its location can be read. -/
def Redirects (location : String) : Prop :=
  ∃ response, request.reply network = .response response ∧ response.isRedirect = true ∧
    response.header? "location" = some location

end Sent

theorem received_eq_ok_iff {network : Network} {options : FetchOptions} {request : Sent}
    {response : Response} :
    request.received network options = .ok response ↔
      request.reply network = .response response := by
  rw [Sent.received]
  cases request.reply network with
  | response found => simp
  | dropped => simp
  | silent => simp

def sentAfter (before : Trace) : (events : Trace) → List Sent
  | [] => []
  | event :: rest =>
    let later := sentAfter (before ++ [event]) rest
    match event with
    | .request url => ⟨url, before⟩ :: later
    | .lookup _ => later
    | .connect _ => later

theorem sentAfter_append (before front back : Trace) :
    sentAfter before (front ++ back) =
      sentAfter before front ++ sentAfter (before ++ front) back := by
  induction front generalizing before with
  | nil => simp [sentAfter]
  | cons event rest ih => cases event <;> simp [sentAfter, ih]

theorem map_url_sentAfter (before events : Trace) :
    (sentAfter before events).map (·.url) = events.requests := by
  induction events generalizing before with
  | nil => rfl
  | cons event rest ih =>
      cases event with
      | request url => exact congrArg (List.cons url) (ih _)
      | lookup host => apply ih
      | connect endpoint => apply ih

theorem sentAfter_lookups (before : Trace) (host : Host) : sentAfter before (lookups host) = [] := by
  cases host with
  | address address => rfl
  | name text => rfl

theorem sentAfter_connects (before : Trace) (tried : List Endpoint) :
    sentAfter before (tried.map .connect) = [] := by
  induction tried generalizing before with
  | nil => rfl
  | cons endpoint rest ih => exact ih _

def Refused (network : Network) : Trace → List Endpoint → Prop
  | _, [] => True
  | before, endpoint :: rest =>
    network.accepts before endpoint = false ∧ Refused network (before ++ [.connect endpoint]) rest

/-- Where the guard is on, a host has addresses, and all of them are public. -/
def Passes (options : FetchOptions) (addresses : List Address) : Prop :=
  options.skipGuard = false →
    addresses ≠ [] ∧ ∀ address ∈ addresses, address.isForbidden = false

def candidates (url : Url) (addresses : List Address) : List Endpoint :=
  byFamily (addresses.map (⟨·, url.port⟩))

/-- A connection to the host of an address comes to stand, with the first of its endpoints that
accepts. -/
inductive Connects (network : Network) (options : FetchOptions) (url : Url) (before : Trace) :
    Endpoint → Trace → Prop
  | intro {addresses : List Address} {front back : List Endpoint} {endpoint : Endpoint}
      (answered : answer network before url.host = .ok addresses)
      (passes : Passes options addresses)
      (sendable : canRequest url = true)
      (tried : candidates url addresses = front ++ endpoint :: back)
      (refused : Refused network (before ++ lookups url.host) front)
      (accepted :
        network.accepts (before ++ lookups url.host ++ front.map .connect) endpoint = true) :
      Connects network options url before endpoint
        (before ++ lookups url.host ++ (front ++ [endpoint]).map .connect)

/-- A request goes out over a connection, which for a secure scheme has been secured. -/
def SetsOut (network : Network) (options : FetchOptions) (before : Trace) (request : Sent) :
    Prop :=
  ∃ endpoint, Connects network options request.url before endpoint request.before ∧
    (request.url.scheme = .https → network.secures request.before endpoint = true)

/-- Why no request goes out to an address. -/
inductive Unreached (network : Network) (options : FetchOptions) (url : Url) (before : Trace) :
    FetchError → Prop
  | unresolved {reason : String} (guarded : options.skipGuard = false)
      (failed : answer network before url.host = .error reason) :
      Unreached network options url before (.unresolved url.host.text reason)
  | homeless (guarded : options.skipGuard = false)
      (answered : answer network before url.host = .ok []) :
      Unreached network options url before (.unresolved url.host.text "no addresses")
  | forbidden {addresses : List Address} {address : Address} (guarded : options.skipGuard = false)
      (answered : answer network before url.host = .ok addresses)
      (found : addresses.find? (·.isForbidden) = some address) :
      Unreached network options url before (.forbidden url.host.text address)
  /-- The guard has the first word, also on an address that no request can be made for. -/
  | unsendable (unsendable : canRequest url = false)
      (passes : options.skipGuard = false →
        ∃ addresses, answer network before url.host = .ok addresses ∧ Passes options addresses) :
      Unreached network options url before .network
  | unnamed {reason : String} (unguarded : options.skipGuard = true)
      (sendable : canRequest url = true)
      (failed : answer network before url.host = .error reason) :
      Unreached network options url before .network
  | refused {addresses : List Address} (answered : answer network before url.host = .ok addresses)
      (passes : Passes options addresses) (sendable : canRequest url = true)
      (refused : Refused network (before ++ lookups url.host) (candidates url addresses)) :
      Unreached network options url before .network
  | unsecured {endpoint : Endpoint} {middle : Trace}
      (connects : Connects network options url before endpoint middle)
      (secure : url.scheme = .https) (unsecured : network.secures middle endpoint = false) :
      Unreached network options url before .network

variable {network : Network} {options : FetchOptions} {url : Url} {before : Trace}

theorem connect_of_refused {endpoints : List Endpoint}
    (hrefused : Refused network before endpoints) :
    network.connect endpoints before = (none, before ++ endpoints.map .connect) := by
  induction endpoints generalizing before with
  | nil => simp [Network.connect]
  | cons endpoint rest ih =>
      obtain ⟨hfirst, hrest⟩ := hrefused
      simp [Network.connect, hfirst, ih hrest]

theorem connect_of_accepted {front back : List Endpoint} {endpoint : Endpoint}
    (hrefused : Refused network before front)
    (haccepted : network.accepts (before ++ front.map .connect) endpoint = true) :
    network.connect (front ++ endpoint :: back) before =
      (some endpoint, before ++ (front ++ [endpoint]).map .connect) := by
  induction front generalizing before with
  | nil =>
      rw [List.map_nil, List.append_nil] at haccepted
      simp [Network.connect, haccepted]
  | cons first rest ih =>
      obtain ⟨hfirst, hrest⟩ := hrefused
      rw [List.map_cons, List.append_cons] at haccepted
      simp [Network.connect, hfirst, ih hrest haccepted]

theorem refused_or_accepted (network : Network) (before : Trace) (endpoints : List Endpoint) :
    Refused network before endpoints ∨
      ∃ front endpoint back, endpoints = front ++ endpoint :: back ∧
        Refused network before front ∧
        network.accepts (before ++ front.map .connect) endpoint = true := by
  induction endpoints generalizing before with
  | nil => exact .inl trivial
  | cons first rest ih =>
      cases hfirst : network.accepts before first with
      | true => exact .inr ⟨[], first, rest, rfl, trivial, by simpa using hfirst⟩
      | false =>
          rcases ih (before ++ [.connect first]) with
            hrefused | ⟨front, endpoint, back, rfl, hrefused, haccepted⟩
          · exact .inl ⟨hfirst, hrefused⟩
          · refine .inr ⟨first :: front, endpoint, back, rfl, ⟨hfirst, hrefused⟩, ?_⟩
            rwa [List.map_cons, List.append_cons]

theorem Connects.connect_eq {endpoint : Endpoint} {middle : Trace}
    (hconnects : Connects network options url before endpoint middle) :
    ∃ addresses, answer network before url.host = .ok addresses ∧ Passes options addresses ∧
      canRequest url = true ∧
      network.connect (candidates url addresses) (before ++ lookups url.host) =
        (some endpoint, middle) := by
  obtain ⟨answered, passes, sendable, tried, refused, accepted⟩ := hconnects
  exact ⟨_, answered, passes, sendable, tried ▸ connect_of_accepted refused accepted⟩

theorem Connects.unique {endpoint other : Endpoint} {middle elsewhere : Trace}
    (hconnects : Connects network options url before endpoint middle)
    (hother : Connects network options url before other elsewhere) :
    endpoint = other ∧ middle = elsewhere := by
  obtain ⟨addresses, hanswer, -, -, hconnect⟩ := hconnects.connect_eq
  obtain ⟨others, hothers, -, -, hreconnect⟩ := hother.connect_eq
  rw [hanswer, Except.ok.injEq] at hothers
  rw [← hothers, hconnect] at hreconnect
  exact ⟨Option.some.inj (congrArg Prod.fst hreconnect), congrArg Prod.snd hreconnect⟩

theorem SetsOut.unique {request other : Sent} (hurl : request.url = other.url)
    (hsetsOut : SetsOut network options before request)
    (hother : SetsOut network options before other) : request = other := by
  obtain ⟨endpoint, hconnects, -⟩ := hsetsOut
  obtain ⟨elsewhere, hreconnects, -⟩ := hother
  cases request
  cases other
  cases hurl
  exact congrArg _ (hconnects.unique hreconnects).2

theorem SetsOut.not_unreached {request : Sent} {cause : FetchError}
    (hsetsOut : SetsOut network options before request) :
    ¬ Unreached network options request.url before cause := by
  obtain ⟨endpoint, hconnects, hsecured⟩ := hsetsOut
  obtain ⟨addresses, hanswer, hpasses, hsendable, hconnect⟩ := hconnects.connect_eq
  intro hunreached
  cases hunreached with
  | unresolved guarded failed =>
      rw [hanswer] at failed
      cases failed
  | homeless guarded answered =>
      rw [hanswer, Except.ok.injEq] at answered
      exact (hpasses guarded).1 answered
  | forbidden guarded answered found =>
      rw [hanswer, Except.ok.injEq] at answered
      subst answered
      have hpublic := (hpasses guarded).2 _ (List.mem_of_find?_eq_some found)
      rw [List.find?_some found] at hpublic
      cases hpublic
  | unsendable unsendable passes =>
      rw [hsendable] at unsendable
      cases unsendable
  | unnamed unguarded sendable failed =>
      rw [hanswer] at failed
      cases failed
  | refused answered passes sendable refused =>
      rw [hanswer, Except.ok.injEq] at answered
      subst answered
      rw [connect_of_refused refused] at hconnect
      cases hconnect
  | unsecured connects secure unsecured =>
      obtain ⟨rfl, rfl⟩ := hconnects.unique connects
      rw [hsecured secure] at unsecured
      cases unsecured

theorem approve_of_passes (host : String) {addresses : List Address} (port : UInt16)
    (hsome : addresses ≠ []) (hpublic : ∀ address ∈ addresses, address.isForbidden = false) :
    Guard.approve host (addresses.map (⟨·, port⟩)) = .ok (addresses.map (⟨·, port⟩)) := by
  have hnone : (addresses.map fun address => (⟨address, port⟩ : Endpoint)).find?
      Guard.isForbidden = none := by
    simpa [Guard.isForbidden] using hpublic
  rw [Guard.approve, hnone]
  exact fun hempty => hsome (List.map_eq_nil_iff.mp hempty)

theorem approve_of_found (host : String) {addresses : List Address} {address : Address}
    (port : UInt16) (hfound : addresses.find? (·.isForbidden) = some address) :
    Guard.approve host (addresses.map (⟨·, port⟩)) = .error (.forbidden host address) := by
  have hforbidden : (addresses.map fun address => (⟨address, port⟩ : Endpoint)).find?
      Guard.isForbidden = some ⟨address, port⟩ := by
    rw [List.find?_map]
    exact congrArg (Option.map _) hfound
  rw [Guard.approve, hforbidden]
  intro hempty
  rw [hempty] at hforbidden
  cases hforbidden

theorem endpoints_unguarded (hunguarded : options.skipGuard = true)
    (hsendable : canRequest url = true) :
    endpoints network options url before =
      ((orNetwork (answer network before url.host)).map (·.map (⟨·, url.port⟩)),
        before ++ lookups url.host) := by
  simp only [endpoints, hunguarded, if_true, hsendable, openEndpoints]
  cases url.host with
  | address address => simp [answer, lookups, orNetwork, Except.map]
  | name text => rfl

theorem endpoints_of_answer {addresses : List Address} (hguarded : options.skipGuard = false)
    (hreadable : url.host.Readable) (hanswer : answer network before url.host = .ok addresses) :
    endpoints network options url before =
      ((Guard.approve url.host.text (addresses.map (⟨·, url.port⟩))).bind fun found =>
        if canRequest url then .ok found else .error .network, before ++ lookups url.host) := by
  simp only [endpoints, hguarded, Bool.false_eq_true, if_false, resolve_readable network hreadable,
    hanswer]
  cases Guard.approve url.host.text (addresses.map (⟨·, url.port⟩)) with
  | error cause => rfl
  | ok found => rfl

theorem endpoints_of_passes {addresses : List Address} (hreadable : url.host.Readable)
    (hanswer : answer network before url.host = .ok addresses) (hpasses : Passes options addresses)
    (hsendable : canRequest url = true) :
    endpoints network options url before =
      (.ok (addresses.map (⟨·, url.port⟩)), before ++ lookups url.host) := by
  cases hguard : options.skipGuard with
  | true =>
      rw [endpoints_unguarded hguard hsendable, hanswer]
      rfl
  | false =>
      obtain ⟨hsome, hpublic⟩ := hpasses hguard
      rw [endpoints_of_answer hguard hreadable hanswer, approve_of_passes _ _ hsome hpublic]
      simp [Except.bind, hsendable]

theorem hop_of_connects {endpoint : Endpoint} {middle : Trace} (hreadable : url.host.Readable)
    (hconnects : Connects network options url before endpoint middle) :
    hop network options url before = exchange network options url endpoint middle := by
  obtain ⟨addresses, hanswer, hpasses, hsendable, hconnect⟩ := hconnects.connect_eq
  rw [candidates] at hconnect
  simp only [hop, endpoints_of_passes hreadable hanswer hpasses hsendable, hconnect]

theorem SetsOut.hop_eq {request : Sent} (hreadable : request.url.host.Readable)
    (hsetsOut : SetsOut network options before request) :
    hop network options request.url before = (request.received network options, request.after) := by
  obtain ⟨endpoint, hconnects, hsecured⟩ := hsetsOut
  rw [hop_of_connects hreadable hconnects, exchange, if_neg (by simpa using hsecured), Network.send,
    Sent.received, Sent.reply]
  cases network.reply request.before request.url with
  | response response => rfl
  | dropped => rfl
  | silent => rfl

theorem Connects.sentAfter_eq {endpoint : Endpoint} {middle : Trace}
    (hconnects : Connects network options url before endpoint middle) :
    ∃ events, middle = before ++ events ∧ sentAfter before events = [] := by
  cases hconnects with
  | intro answered passes sendable tried refused accepted =>
      refine ⟨_, List.append_assoc _ _ _, ?_⟩
      rw [sentAfter_append, sentAfter_lookups, sentAfter_connects]
      rfl

theorem SetsOut.sentAfter_eq {request : Sent} (hsetsOut : SetsOut network options before request) :
    ∃ events, request.after = before ++ events ∧ sentAfter before events = [request] := by
  obtain ⟨endpoint, hconnects, -⟩ := hsetsOut
  obtain ⟨events, hevents, hsilent⟩ := hconnects.sentAfter_eq
  refine ⟨events ++ [.request request.url], ?_, ?_⟩
  · rw [Sent.after, hevents, List.append_assoc]
  · rw [sentAfter_append, hsilent, ← hevents]
    rfl

theorem Unreached.hop_eq {cause : FetchError} (hreadable : url.host.Readable)
    (hunreached : Unreached network options url before cause) :
    ∃ events, hop network options url before = (.error cause, before ++ events) ∧
      sentAfter before events = [] := by
  cases hunreached with
  | @unresolved reason guarded failed =>
      refine ⟨lookups url.host, ?_, sentAfter_lookups before url.host⟩
      rw [hop, endpoints, if_neg (by simp [guarded]), resolve_readable network hreadable, failed]
  | homeless guarded answered =>
      refine ⟨lookups url.host, ?_, sentAfter_lookups before url.host⟩
      rw [hop, endpoints_of_answer guarded hreadable answered]
      rfl
  | forbidden guarded answered found =>
      refine ⟨lookups url.host, ?_, sentAfter_lookups before url.host⟩
      rw [hop, endpoints_of_answer guarded hreadable answered, approve_of_found _ _ found]
      rfl
  | unsendable unsendable passes =>
      cases hguard : options.skipGuard with
      | true =>
          refine ⟨[], ?_, rfl⟩
          rw [hop, endpoints, if_pos hguard, if_neg (by simp [unsendable]), List.append_nil]
      | false =>
          obtain ⟨addresses, hanswer, hpasses⟩ := passes hguard
          obtain ⟨hsome, hpublic⟩ := hpasses hguard
          refine ⟨lookups url.host, ?_, sentAfter_lookups before url.host⟩
          rw [hop, endpoints_of_answer hguard hreadable hanswer,
            approve_of_passes _ _ hsome hpublic]
          simp [Except.bind, unsendable]
  | unnamed unguarded sendable failed =>
      refine ⟨lookups url.host, ?_, sentAfter_lookups before url.host⟩
      rw [hop, endpoints_unguarded unguarded sendable, failed]
      rfl
  | @refused addresses answered passes sendable refused =>
      refine ⟨lookups url.host ++ (candidates url addresses).map .connect, ?_, ?_⟩
      · have hconnect := connect_of_refused refused
        rw [candidates] at hconnect ⊢
        simp only [hop, endpoints_of_passes hreadable answered passes sendable, hconnect,
          List.append_assoc]
      · rw [sentAfter_append, sentAfter_lookups, sentAfter_connects]
        rfl
  | unsecured connects secure unsecured =>
      obtain ⟨events, rfl, hsilent⟩ := connects.sentAfter_eq
      refine ⟨events, ?_, hsilent⟩
      rw [hop_of_connects hreadable connects, exchange, if_pos ⟨secure, by simp [unsecured]⟩]

theorem Unreached.unique {cause other : FetchError} (hreadable : url.host.Readable)
    (hunreached : Unreached network options url before cause)
    (hother : Unreached network options url before other) : cause = other := by
  obtain ⟨events, hfails, -⟩ := hunreached.hop_eq hreadable
  obtain ⟨others, hfailsOther, -⟩ := hother.hop_eq hreadable
  rw [hfails] at hfailsOther
  exact Except.error.inj (congrArg Prod.fst hfailsOther)

/-- Either a request goes out to an address, or there is a reason why none does. -/
def Attempted (network : Network) (options : FetchOptions) (url : Url) (before : Trace) : Prop :=
  (∃ request : Sent, request.url = url ∧ SetsOut network options before request) ∨
    ∃ cause, Unreached network options url before cause

theorem Connects.attempted {endpoint : Endpoint} {middle : Trace}
    (hconnects : Connects network options url before endpoint middle) :
    Attempted network options url before := by
  by_cases hunsecured : url.scheme = .https ∧ network.secures middle endpoint = false
  · exact .inr ⟨_, .unsecured hconnects hunsecured.1 hunsecured.2⟩
  · refine .inl ⟨⟨url, middle⟩, rfl, endpoint, hconnects, ?_⟩
    simpa using hunsecured

theorem attempted_of_passes {addresses : List Address}
    (hanswer : answer network before url.host = .ok addresses)
    (hpasses : Passes options addresses) : Attempted network options url before := by
  cases hsendable : canRequest url with
  | false => exact .inr ⟨_, .unsendable hsendable fun _ => ⟨addresses, hanswer, hpasses⟩⟩
  | true =>
      rcases refused_or_accepted network (before ++ lookups url.host) (candidates url addresses) with
        hrefused | ⟨_, endpoint, _, htried, hrefused, haccepted⟩
      · exact .inr ⟨_, .refused hanswer hpasses hsendable hrefused⟩
      · exact (Connects.intro hanswer hpasses hsendable htried hrefused haccepted).attempted

theorem attempted (network : Network) (options : FetchOptions) (url : Url) (before : Trace) :
    Attempted network options url before := by
  cases hguard : options.skipGuard with
  | true =>
      have hopen : options.skipGuard ≠ false := by simp [hguard]
      cases hanswer : answer network before url.host with
      | ok addresses => exact attempted_of_passes hanswer fun hguarded => absurd hguarded hopen
      | error reason =>
          cases hsendable : canRequest url with
          | true => exact .inr ⟨_, .unnamed hguard hsendable hanswer⟩
          | false => exact .inr ⟨_, .unsendable hsendable fun hguarded => absurd hguarded hopen⟩
  | false =>
      cases hanswer : answer network before url.host with
      | error reason => exact .inr ⟨_, .unresolved hguard hanswer⟩
      | ok addresses =>
          cases hfound : addresses.find? (·.isForbidden) with
          | some address => exact .inr ⟨_, .forbidden hguard hanswer hfound⟩
          | none =>
              by_cases hnone : addresses = []
              · exact .inr ⟨_, .homeless hguard (hnone ▸ hanswer)⟩
              · refine attempted_of_passes hanswer fun _ => ⟨hnone, ?_⟩
                simpa using hfound

theorem hop_ok {after : Trace} {response : Response} (hreadable : url.host.Readable)
    (hhop : hop network options url before = (.ok response, after)) :
    ∃ request : Sent, request.url = url ∧ SetsOut network options before request ∧
      after = request.after ∧ request.reply network = .response response := by
  rcases attempted network options url before with ⟨request, rfl, hsetsOut⟩ | ⟨cause, hunreached⟩
  · rw [hsetsOut.hop_eq hreadable] at hhop
    obtain ⟨hreceived, rfl⟩ := Prod.mk.inj hhop
    exact ⟨request, rfl, hsetsOut, rfl, received_eq_ok_iff.mp hreceived⟩
  · obtain ⟨events, hfails, -⟩ := hunreached.hop_eq hreadable
    rw [hfails] at hhop
    cases hhop

theorem hop_error {after : Trace} {cause : FetchError} (hreadable : url.host.Readable)
    (hhop : hop network options url before = (.error cause, after)) :
    (∃ events, after = before ++ events ∧ sentAfter before events = [] ∧
      Unreached network options url before cause) ∨
    ∃ request : Sent, request.url = url ∧ SetsOut network options before request ∧
      after = request.after ∧ request.received network options = .error cause := by
  rcases attempted network options url before with ⟨request, rfl, hsetsOut⟩ | ⟨found, hunreached⟩
  · rw [hsetsOut.hop_eq hreadable] at hhop
    obtain ⟨hreceived, rfl⟩ := Prod.mk.inj hhop
    exact .inr ⟨request, rfl, hsetsOut, rfl, hreceived⟩
  · obtain ⟨events, hfails, hsilent⟩ := hunreached.hop_eq hreadable
    rw [hfails] at hhop
    cases hhop
    exact .inl ⟨events, rfl, hsilent, hunreached⟩

end Fetch

end Signoff
