import Mathlib.Data.List.Chain
import Signoff.Proofs.Fetch.Limit
import Signoff.Proofs.Fetch.Requests

namespace Signoff

namespace Fetch

/-! How far redirects lead. Which requests a fetch sends, and what it makes of the answers, follows
from what the network does: redirects are followed while there are few enough of them, and the
first answer that is none decides. -/

variable {network : Network} {options : FetchOptions}

/-- What becomes of a fetch whose last request this is, where so many redirects might still have
been followed. -/
inductive Ends (network : Network) (options : FetchOptions) :
    Nat → Sent → Except FetchError String → Prop
  | unanswered {remaining : Nat} {request : Sent} {cause : FetchError}
      (fails : request.received network options = .error cause) :
      Ends network options remaining request (.error cause)
  | final {remaining : Nat} {request : Sent} {response : Response}
      (reply : request.reply network = .response response) (final : response.isRedirect = false) :
      Ends network options remaining request (digestSuccess options response)
  | unreadable {remaining : Nat} {request : Sent} {response : Response}
      (reply : request.reply network = .response response)
      (redirects : response.isRedirect = true) (header : response.header? "location" = none) :
      Ends network options remaining request (.error .badRedirect)
  | exhausted {request : Sent} {location : String} (redirects : request.Redirects network location) :
      Ends network options 0 request (.error (.tooManyRedirects options.maxRedirects))
  | astray {remaining : Nat} {request : Sent} {location : String} {cause : FetchError}
      (redirects : request.Redirects network location)
      (leads : target request.url location = .error cause) :
      Ends network options (remaining + 1) request (.error cause)

/-- The requests of a fetch from an address on, where so many redirects may still be followed, and
what comes of it. -/
inductive Course (network : Network) (options : FetchOptions) :
    Nat → Url → Trace → List Sent → Except FetchError String → Prop
  | unreached {remaining : Nat} {url : Url} {before : Trace} {cause : FetchError}
      (unreached : Unreached network options url before cause) :
      Course network options remaining url before [] (.error cause)
  | ends {remaining : Nat} {before : Trace} {request : Sent} {outcome : Except FetchError String}
      (setsOut : SetsOut network options before request)
      (ends : Ends network options remaining request outcome) :
      Course network options remaining request.url before [request] outcome
  | onward {remaining : Nat} {before : Trace} {request : Sent} {location : String} {next : Url}
      {later : List Sent} {outcome : Except FetchError String}
      (setsOut : SetsOut network options before request)
      (redirects : request.Redirects network location)
      (joins : request.url.join location = .ok (.web next))
      (rest : Course network options remaining next request.after later outcome) :
      Course network options (remaining + 1) request.url before (request :: later) outcome

theorem target_eq_ok_iff {url next : Url} {location : String} :
    target url location = .ok next ↔ url.join location = .ok (.web next) := by
  rw [target]
  split
  · next hjoin => simp [hjoin]
  · next hjoin => simp [hjoin]
  · next hjoin => simp [hjoin]

theorem Ends.course {remaining : Nat} {before : Trace} {request : Sent}
    {outcome : Except FetchError String} (hends : Ends network options remaining request outcome)
    (hsetsOut : SetsOut network options before request) :
    ∃ events, request.after = before ++ events ∧
      Course network options remaining request.url before (sentAfter before events) outcome := by
  obtain ⟨events, hevents, hsent⟩ := hsetsOut.sentAfter_eq
  exact ⟨events, hevents, hsent ▸ .ends hsetsOut hends⟩

theorem follow_course (network : Network) (options : FetchOptions) (remaining : Nat) (url : Url)
    (hreadable : url.host.Readable) (before : Trace) :
    ∃ events, (follow network options remaining url before).2 = before ++ events ∧
      Course network options remaining url before (sentAfter before events)
        ((follow network options remaining url before).1.bind (digestSuccess options)) := by
  -- A fetch that goes on hands on that the next host was read from a text.
  fun_induction follow network options remaining url before with
  | case1 remaining url before cause after hhop =>
      rcases hop_error hreadable hhop with
        ⟨events, rfl, hsilent, hunreached⟩ | ⟨request, rfl, hsetsOut, rfl, hfails⟩
      · exact ⟨events, rfl, hsilent ▸ .unreached hunreached⟩
      · exact (Ends.unanswered hfails).course hsetsOut
  | case2 remaining url before response after hhop hredirects hheader =>
      obtain ⟨request, rfl, hsetsOut, rfl, hreply⟩ := hop_ok hreadable hhop
      exact (Ends.unreadable hreply hredirects hheader).course hsetsOut
  | case3 url before response after hhop hredirects location hheader =>
      obtain ⟨request, rfl, hsetsOut, rfl, hreply⟩ := hop_ok hreadable hhop
      exact (Ends.exhausted ⟨response, hreply, hredirects, hheader⟩).course hsetsOut
  | case4 url before response after hhop hredirects location remaining hheader cause hleads =>
      obtain ⟨request, rfl, hsetsOut, rfl, hreply⟩ := hop_ok hreadable hhop
      exact (Ends.astray ⟨response, hreply, hredirects, hheader⟩ hleads).course hsetsOut
  | case5 url before response after hhop hredirects location remaining hheader next hleads ih =>
      obtain ⟨request, rfl, hsetsOut, rfl, hreply⟩ := hop_ok hreadable hhop
      obtain ⟨events, hevents, hsent⟩ := hsetsOut.sentAfter_eq
      obtain ⟨later, hlater, hcourse⟩ := ih (target_eq_ok hreadable hleads).1
      refine ⟨events ++ later, by rw [hlater, hevents, List.append_assoc], ?_⟩
      rw [sentAfter_append, hsent, ← hevents]
      exact .onward hsetsOut ⟨response, hreply, hredirects, hheader⟩
        (target_eq_ok_iff.mp hleads) hcourse
  | case6 remaining url before response after hhop hfinal =>
      obtain ⟨request, rfl, hsetsOut, rfl, hreply⟩ := hop_ok hreadable hhop
      exact (Ends.final hreply (Bool.eq_false_iff.mpr hfinal)).course hsetsOut

theorem Unreached.ne_tooMany {url : Url} {before : Trace} {cause : FetchError}
    (hunreached : Unreached network options url before cause) (limit : Nat) :
    cause ≠ .tooManyRedirects limit := by
  cases hunreached <;> simp

theorem received_ne_tooMany {request : Sent} {cause : FetchError}
    (hfails : request.received network options = .error cause) (limit : Nat) :
    cause ≠ .tooManyRedirects limit := by
  rw [Sent.received] at hfails
  split at hfails
  · cases hfails
  · cases hfails
    simp
  · cases hfails
    simp

theorem target_ne_tooMany {url : Url} {location : String} {cause : FetchError}
    (hfails : target url location = .error cause) (limit : Nat) :
    cause ≠ .tooManyRedirects limit := by
  rw [target] at hfails
  split at hfails
  · cases hfails
    simp
  · cases hfails
    simp
  · cases hfails

theorem digestArrival_ne_tooMany (options : FetchOptions) (hasher : Hasher) (arrival : Arrival)
    (limit : Nat) :
    (digestArrival options hasher arrival).1 ≠ .error (.tooManyRedirects limit) := by
  rw [digestArrival_eq]
  split
  · cases arrival.ending with
    | finished => simp
    | cut => simp
    | stalled => simp
  · simp

theorem digestResponse_ne_tooMany (options : FetchOptions) (response : Response) (limit : Nat) :
    digestResponse options response ≠ .error (.tooManyRedirects limit) := by
  rw [digestResponse_eq]
  split
  · split
    · simp
    · cases Hasher.ofAlgorithm? options.algorithm with
      | none => simp
      | some hasher => apply digestArrival_ne_tooMany
  · simp

theorem digestSuccess_ne_tooMany (options : FetchOptions) (response : Response) (limit : Nat) :
    digestSuccess options response ≠ .error (.tooManyRedirects limit) := by
  rw [digestSuccess]
  split
  · apply digestResponse_ne_tooMany
  · simp

namespace Sent

variable {request : Sent} {location other : String} {response : Response}

def Leads (network : Network) (earlier later : Sent) : Prop :=
  ∃ location, earlier.Redirects network location ∧ earlier.url.join location = .ok (.web later.url)

theorem Redirects.answer (hredirects : request.Redirects network location)
    (hreply : request.reply network = .response response) :
    response.isRedirect = true ∧ response.header? "location" = some location := by
  obtain ⟨found, hfound, hredirect, hheader⟩ := hredirects
  rw [hreply, Reply.response.injEq] at hfound
  exact hfound ▸ ⟨hredirect, hheader⟩

theorem Redirects.unique (hredirects : request.Redirects network location)
    (hothers : request.Redirects network other) : location = other := by
  obtain ⟨response, hreply, -, hheader⟩ := hredirects
  rw [(hothers.answer hreply).2] at hheader
  exact (Option.some.inj hheader).symm

end Sent

/-- From an address on the network has these requests sent, each but the first where the answer to
the one before leads. -/
inductive Chained (network : Network) (options : FetchOptions) :
    Url → Trace → (earlier : List Sent) → (last : Sent) → Prop
  | single {before : Trace} {request : Sent} (setsOut : SetsOut network options before request) :
      Chained network options request.url before [] request
  | onward {before : Trace} {request : Sent} {location : String} {next : Url}
      {earlier : List Sent} {last : Sent} (setsOut : SetsOut network options before request)
      (redirects : request.Redirects network location)
      (joins : request.url.join location = .ok (.web next))
      (rest : Chained network options next request.after earlier last) :
      Chained network options request.url before (request :: earlier) last

variable {remaining : Nat} {url : Url} {before : Trace} {sent earlier : List Sent} {last : Sent}
  {outcome : Except FetchError String}

theorem Chained.readable (hreadable : url.host.Readable)
    (hchained : Chained network options url before earlier last) : last.url.host.Readable := by
  induction hchained with
  | single => exact hreadable
  | onward setsOut redirects joins rest ih =>
      exact ih (target_eq_ok hreadable (target_eq_ok_iff.mpr joins)).1

theorem Ends.of_redirects {request : Sent} {location : String}
    (hends : Ends network options remaining request outcome)
    (hredirects : request.Redirects network location) :
    remaining = 0 ∧ outcome = .error (.tooManyRedirects options.maxRedirects) ∨
      0 < remaining ∧ ∃ cause, target request.url location = .error cause := by
  cases hends with
  | unanswered fails =>
      obtain ⟨response, hreply, -⟩ := hredirects
      rw [received_eq_ok_iff.mpr hreply] at fails
      cases fails
  | final reply final =>
      rw [(hredirects.answer reply).1] at final
      cases final
  | unreadable reply redirects header =>
      rw [(hredirects.answer reply).2] at header
      cases header
  | exhausted redirects => exact .inl ⟨rfl, rfl⟩
  | astray redirects leads =>
      exact .inr ⟨Nat.succ_pos _, _, redirects.unique hredirects ▸ leads⟩

theorem Ends.tooMany (hends : Ends network options remaining last outcome) {limit : Nat}
    (houtcome : outcome = .error (.tooManyRedirects limit)) :
    limit = options.maxRedirects ∧ remaining = 0 ∧
      ∃ location, last.Redirects network location := by
  cases hends with
  | unanswered fails => exact absurd (Except.error.inj houtcome) (received_ne_tooMany fails limit)
  | final reply final => exact absurd houtcome (digestSuccess_ne_tooMany options _ limit)
  | unreadable reply redirects header => cases houtcome
  | exhausted redirects =>
      cases houtcome
      exact ⟨rfl, rfl, _, redirects⟩
  | astray redirects leads =>
      exact absurd (Except.error.inj houtcome) (target_ne_tooMany leads limit)

theorem Ends.of_reply {response : Response} (hends : Ends network options remaining last outcome)
    (hreply : last.reply network = .response response)
    (hnowhere : response.isRedirect = true → response.header? "location" = none) :
    outcome =
      if response.isRedirect then .error .badRedirect else digestSuccess options response := by
  cases hends with
  | unanswered fails =>
      rw [received_eq_ok_iff.mpr hreply] at fails
      cases fails
  | final reply final =>
      rw [hreply, Reply.response.injEq] at reply
      rw [reply, final, if_neg Bool.false_ne_true]
  | unreadable reply redirects header =>
      rw [hreply, Reply.response.injEq] at reply
      rw [reply, redirects, if_pos rfl]
  | exhausted redirects =>
      obtain ⟨hredirect, hheader⟩ := redirects.answer hreply
      rw [hnowhere hredirect] at hheader
      cases hheader
  | astray redirects leads =>
      obtain ⟨hredirect, hheader⟩ := redirects.answer hreply
      rw [hnowhere hredirect] at hheader
      cases hheader

namespace Course

theorem length_le (hcourse : Course network options remaining url before sent outcome) :
    sent.length ≤ remaining + 1 := by
  induction hcourse with
  | unreached => apply Nat.zero_le
  | ends => apply Nat.le_add_left
  | onward setsOut redirects joins rest ih => exact Nat.succ_le_succ ih

theorem head_url (hcourse : Course network options remaining url before sent outcome) :
    ∀ first ∈ sent.head?, first.url = url := by
  intro first hfirst
  cases hcourse with
  | unreached => cases hfirst
  | ends => cases hfirst; rfl
  | onward => cases hfirst; rfl

theorem leads (hcourse : Course network options remaining url before sent outcome) :
    sent.IsChain (Sent.Leads network) := by
  induction hcourse with
  | unreached => exact .nil
  | ends => exact .singleton _
  | @onward remaining before request location next later outcome setsOut redirects joins rest ih =>
      refine List.isChain_cons.mpr ⟨fun following hfollowing => ?_, ih⟩
      rw [← rest.head_url following hfollowing] at joins
      exact ⟨location, redirects, joins⟩

/-- A request that the network has sent is the next of a course, which it ends unless it is
answered by a redirect to follow. -/
theorem of_setsOut {request : Sent} (hsetsOut : SetsOut network options before request)
    (hcourse : Course network options remaining request.url before sent outcome) :
    sent = [request] ∧ Ends network options remaining request outcome ∨
      ∃ fewer location next later, remaining = fewer + 1 ∧ sent = request :: later ∧
        request.Redirects network location ∧ request.url.join location = .ok (.web next) ∧
          Course network options fewer next request.after later outcome := by
  generalize hurl : request.url = url at hcourse
  cases hcourse with
  | unreached unreached => exact absurd (hurl ▸ unreached) hsetsOut.not_unreached
  | ends setsOut ends =>
      obtain rfl := hsetsOut.unique hurl setsOut
      exact .inl ⟨rfl, ends⟩
  | onward setsOut redirects joins rest =>
      obtain rfl := hsetsOut.unique hurl setsOut
      exact .inr ⟨_, _, _, _, rfl, rfl, redirects, joins, rest⟩

theorem through (hchained : Chained network options url before earlier last)
    (hfew : earlier.length ≤ remaining)
    (hcourse : Course network options remaining url before sent outcome) :
    ∃ middle later, sent = earlier ++ later ∧ SetsOut network options middle last ∧
      Course network options (remaining - earlier.length) last.url middle later outcome := by
  induction hchained generalizing remaining sent with
  | single setsOut => exact ⟨_, sent, rfl, setsOut, hcourse⟩
  | @onward before request location next earlier last setsOut redirects joins rest ih =>
      cases remaining with
      | zero => cases hfew
      | succ fewer =>
          rcases hcourse.of_setsOut setsOut with
            ⟨-, hends⟩ | ⟨_, other, elsewhere, later, hfewer, rfl, hredirects, hjoins, hrest⟩
          · rcases hends.of_redirects redirects with ⟨hnone, -⟩ | ⟨-, cause, hleads⟩
            · cases hnone
            · rw [target_eq_ok_iff.mpr joins] at hleads
              cases hleads
          · obtain rfl := Nat.succ.inj hfewer
            rw [redirects.unique hredirects, hjoins, Except.ok.injEq, Reference.web.injEq] at joins
            subst joins
            obtain ⟨middle, last, rfl, hsetsOut, hthrough⟩ :=
              ih (Nat.le_of_succ_le_succ hfew) hrest
            refine ⟨middle, last, rfl, hsetsOut, ?_⟩
            rwa [List.length_cons, Nat.succ_sub_succ]

theorem at_last (hcourse : Course network options remaining url before sent outcome)
    (hchained : Chained network options url before earlier last)
    (hfew : earlier.length ≤ remaining) :
    earlier ++ [last] <+: sent ∧
      (Ends network options (remaining - earlier.length) last outcome ∨
        ∃ fewer location next later, remaining = earlier.length + (fewer + 1) ∧
          last.Redirects network location ∧ last.url.join location = .ok (.web next) ∧
            Course network options fewer next last.after later outcome) := by
  obtain ⟨middle, later, rfl, hsetsOut, hlast⟩ := through hchained hfew hcourse
  rcases hlast.of_setsOut hsetsOut with
    ⟨rfl, hends⟩ | ⟨fewer, location, next, rest, hremaining, rfl, hredirects, hjoins, hrest⟩
  · exact ⟨List.prefix_rfl, .inl hends⟩
  · exact ⟨⟨rest, (List.append_cons earlier last rest).symm⟩,
      .inr ⟨fewer, location, next, rest, by omega, hredirects, hjoins, hrest⟩⟩

theorem chained (hcourse : Course network options remaining url before sent outcome)
    (hfront : earlier ++ [last] <+: sent) :
    earlier.length ≤ remaining ∧ Chained network options url before earlier last := by
  induction hcourse generalizing earlier with
  | unreached => simp at hfront
  | @ends remaining before request outcome setsOut ends =>
      cases earlier with
      | nil =>
          obtain ⟨rfl, -⟩ := List.cons_prefix_cons.mp hfront
          exact ⟨Nat.zero_le _, .single setsOut⟩
      | cons first earlier =>
          have hnone := (List.cons_prefix_cons.mp hfront).2
          simp at hnone
  | @onward remaining before request location next later outcome setsOut redirects joins rest ih =>
      cases earlier with
      | nil =>
          obtain ⟨rfl, -⟩ := List.cons_prefix_cons.mp hfront
          exact ⟨Nat.zero_le _, .single setsOut⟩
      | cons first earlier =>
          obtain ⟨rfl, hlater⟩ := List.cons_prefix_cons.mp hfront
          obtain ⟨hfew, hchained⟩ := ih hlater
          exact ⟨Nat.succ_le_succ hfew, .onward setsOut redirects joins hchained⟩

theorem chained_iff (hcourse : Course network options remaining url before sent outcome) :
    earlier ++ [last] <+: sent ↔
      earlier.length ≤ remaining ∧ Chained network options url before earlier last :=
  ⟨hcourse.chained, fun ⟨hfew, hchained⟩ => (hcourse.at_last hchained hfew).1⟩

theorem tooMany_iff (hcourse : Course network options remaining url before sent outcome)
    (limit : Nat) :
    outcome = .error (.tooManyRedirects limit) ↔
      limit = options.maxRedirects ∧ ∃ earlier last location, earlier.length = remaining ∧
        Chained network options url before earlier last ∧ last.Redirects network location := by
  constructor
  · intro houtcome
    induction hcourse with
    | unreached unreached => exact absurd (Except.error.inj houtcome) (unreached.ne_tooMany limit)
    | ends setsOut ends =>
        obtain ⟨hlimit, rfl, location, hredirects⟩ := ends.tooMany houtcome
        exact ⟨hlimit, [], _, location, rfl, .single setsOut, hredirects⟩
    | onward setsOut redirects joins rest ih =>
        obtain ⟨hlimit, earlier, last, location, rfl, hchained, hredirects⟩ := ih houtcome
        exact ⟨hlimit, _ :: earlier, last, location, rfl,
          .onward setsOut redirects joins hchained, hredirects⟩
  · rintro ⟨rfl, earlier, last, location, rfl, hchained, hredirects⟩
    rcases (hcourse.at_last hchained (Nat.le_refl _)).2 with
      hends | ⟨fewer, _, _, _, hremaining, -⟩
    · rw [Nat.sub_self] at hends
      rcases hends.of_redirects hredirects with ⟨-, houtcome⟩ | ⟨hsome, -⟩
      · exact houtcome
      · cases hsome
    · omega

theorem decided (hcourse : Course network options remaining url before sent outcome)
    (hchained : Chained network options url before earlier last)
    (hfew : earlier.length ≤ remaining) {response : Response}
    (hreply : last.reply network = .response response)
    (hnowhere : response.isRedirect = true → response.header? "location" = none) :
    outcome =
      if response.isRedirect then .error .badRedirect else digestSuccess options response := by
  rcases (hcourse.at_last hchained hfew).2 with hends | ⟨_, _, _, _, -, hredirects, -⟩
  · exact hends.of_reply hreply hnowhere
  · obtain ⟨hredirect, hheader⟩ := hredirects.answer hreply
    rw [hnowhere hredirect] at hheader
    cases hheader

theorem of_unreached {cause : FetchError} (hreadable : url.host.Readable)
    (hunreached : Unreached network options url before cause)
    (hcourse : Course network options remaining url before sent outcome) :
    outcome = .error cause := by
  cases hcourse with
  | unreached unreached => rw [unreached.unique hreadable hunreached]
  | ends setsOut ends => exact absurd hunreached setsOut.not_unreached
  | onward setsOut redirects joins rest => exact absurd hunreached setsOut.not_unreached

theorem stranded {location : String} {next : Url} {cause : FetchError}
    (hreadable : next.host.Readable)
    (hcourse : Course network options remaining url before sent outcome)
    (hchained : Chained network options url before earlier last)
    (hfew : earlier.length < remaining) (hredirects : last.Redirects network location)
    (hjoins : last.url.join location = .ok (.web next))
    (hunreached : Unreached network options next last.after cause) :
    outcome = .error cause := by
  rcases (hcourse.at_last hchained (Nat.le_of_lt hfew)).2 with
    hends | ⟨fewer, other, elsewhere, later, -, hothers, hleads, hrest⟩
  · rcases hends.of_redirects hredirects with ⟨hnone, -⟩ | ⟨-, found, hfails⟩
    · omega
    · rw [target_eq_ok_iff.mpr hjoins] at hfails
      cases hfails
  · rw [hredirects.unique hothers, hleads, Except.ok.injEq, Reference.web.injEq] at hjoins
    subst hjoins
    exact hrest.of_unreached hreadable hunreached

end Course

/-- A fetch for a web address, by an algorithm whose digests are computed. -/
structure Starts (options : FetchOptions) (source : String) (url : Url) : Prop where
  computed : options.algorithm ≠ .md5
  parsed : Url.parse source = .ok (.web url)

/-- The requests of a fetch and its outcome, as the network makes them. -/
structure Bounded (network : Network) (options : FetchOptions) (source : String) (before : Trace)
    (sent : List Sent) (outcome : Except FetchError String) : Prop where
  length_le : sent.length ≤ options.maxRedirects + 1
  leads : sent.IsChain (Sent.Leads network)
  /-- What the network chains is sent, and nothing else is. -/
  chained_iff : ∀ earlier last, earlier ++ [last] <+: sent ↔
    earlier.length ≤ options.maxRedirects ∧
      ∃ url, Starts options source url ∧ Chained network options url before earlier last
  tooMany : ∀ limit, outcome = .error (.tooManyRedirects limit) ↔
    limit = options.maxRedirects ∧ ∃ url earlier last location, Starts options source url ∧
      earlier.length = options.maxRedirects ∧ Chained network options url before earlier last ∧
        last.Redirects network location
  decided : ∀ url earlier last response, Starts options source url →
    Chained network options url before earlier last → earlier.length ≤ options.maxRedirects →
      last.reply network = .response response → response.isRedirect = false →
        outcome = digestSuccess options response
  unreadable : ∀ url earlier last response, Starts options source url →
    Chained network options url before earlier last → earlier.length ≤ options.maxRedirects →
      last.reply network = .response response → response.isRedirect = true →
        response.header? "location" = none → outcome = .error .badRedirect
  unreached : ∀ url cause, Starts options source url →
    Unreached network options url before cause → outcome = .error cause
  stranded : ∀ url earlier last location next cause, Starts options source url →
    Chained network options url before earlier last → earlier.length < options.maxRedirects →
      last.Redirects network location → last.url.join location = .ok (.web next) →
        Unreached network options next last.after cause → outcome = .error cause

theorem Course.bounded {source : String} (hstarts : Starts options source url)
    (hcourse : Course network options options.maxRedirects url before sent outcome) :
    Bounded network options source before sent outcome := by
  have hreadable := (Url.parse_eq_web hstarts.parsed).1
  have hunique : ∀ {other}, Starts options source other → url = other := by
    intro other hother
    have hparsed := hstarts.parsed.symm.trans hother.parsed
    rwa [Except.ok.injEq, Reference.web.injEq] at hparsed
  constructor
  case length_le => exact hcourse.length_le
  case leads => exact hcourse.leads
  case chained_iff =>
    intro earlier last
    rw [hcourse.chained_iff]
    constructor
    · rintro ⟨hfew, hchained⟩
      exact ⟨hfew, url, hstarts, hchained⟩
    · rintro ⟨hfew, other, hother, hchained⟩
      exact ⟨hfew, hunique hother ▸ hchained⟩
  case tooMany =>
    intro limit
    rw [hcourse.tooMany_iff]
    constructor
    · rintro ⟨hlimit, earlier, last, location, hlength, hchained, hredirects⟩
      exact ⟨hlimit, url, earlier, last, location, hstarts, hlength, hchained, hredirects⟩
    · rintro ⟨hlimit, other, earlier, last, location, hother, hlength, hchained, hredirects⟩
      exact ⟨hlimit, earlier, last, location, hlength, hunique hother ▸ hchained, hredirects⟩
  case decided =>
    intro other earlier last response hother hchained hfew hreply hfinal
    rw [hcourse.decided (hunique hother ▸ hchained) hfew hreply (by simp [hfinal]), hfinal,
      if_neg Bool.false_ne_true]
  case unreadable =>
    intro other earlier last response hother hchained hfew hreply hredirect hheader
    rw [hcourse.decided (hunique hother ▸ hchained) hfew hreply fun _ => hheader,
      if_pos hredirect]
  case unreached =>
    intro other cause hother hunreached
    exact hcourse.of_unreached hreadable (hunique hother ▸ hunreached)
  case stranded =>
    intro other earlier last location next cause hother hchained hfew hredirects hjoins
    obtain rfl := hunique hother
    have hnext := target_eq_ok (hchained.readable hreadable) (target_eq_ok_iff.mpr hjoins)
    exact hcourse.stranded hnext.1 hchained hfew hredirects hjoins

theorem bounded_of_not_starts {source : String} (hnone : ∀ url, ¬ Starts options source url)
    (houtcome : ∀ limit, outcome ≠ .error (.tooManyRedirects limit)) :
    Bounded network options source before [] outcome := by
  constructor
  case length_le => exact Nat.zero_le _
  case leads => exact .nil
  case chained_iff => simp [hnone]
  case tooMany => simp [hnone, houtcome]
  all_goals
    intro url
    intros
    exact absurd ‹Starts options source url› (hnone url)

/-- Whatever servers answer, a fetch ends after at most one request more than it may follow
redirects. It sends the requests that the network chains, up to that many: the first to the address
that was asked for, each other one where the answer before leads. There are too many redirects
exactly if as many as may be followed lead to yet another one. The first answer that is none
decides, and one without a readable location is an error, on the last permitted hop as well. -/
theorem compute_bounded (network : Network) (options : FetchOptions) (source : String)
    (before : Trace) :
    ∃ events, (compute network options source before).2 = before ++ events ∧
      (sentAfter before events).map (·.url) = events.requests ∧
      Bounded network options source before (sentAfter before events)
        (compute network options source before).1 := by
  fun_cases compute network options source before with
  | case1 hmd5 =>
      exact ⟨[], by simp, rfl, bounded_of_not_starts (fun url hstarts => hstarts.computed hmd5)
        (by simp)⟩
  | case2 halgorithm cause hparse =>
      refine ⟨[], by simp, rfl, bounded_of_not_starts (fun url hstarts => ?_) (by simp)⟩
      rw [hstarts.parsed] at hparse
      cases hparse
  | case3 halgorithm scheme hparse =>
      refine ⟨[], by simp, rfl, bounded_of_not_starts (fun url hstarts => ?_) (by simp)⟩
      rw [hstarts.parsed] at hparse
      cases hparse
  | case4 halgorithm url hparse cause after hfollow =>
      obtain ⟨events, htrace, hcourse⟩ := follow_course network options options.maxRedirects url
        (Url.parse_eq_web hparse).1 before
      rw [hfollow] at htrace hcourse
      exact ⟨events, htrace, map_url_sentAfter before events,
        Course.bounded ⟨halgorithm, hparse⟩ hcourse⟩
  | case5 halgorithm url hparse response after hfollow =>
      obtain ⟨events, htrace, hcourse⟩ := follow_course network options options.maxRedirects url
        (Url.parse_eq_web hparse).1 before
      rw [hfollow] at htrace hcourse
      exact ⟨events, htrace, map_url_sentAfter before events,
        Course.bounded ⟨halgorithm, hparse⟩ hcourse⟩

def redirectTo (location : String) : Response :=
  { threeBytes with status := 302, headers := [("Location", location.toUTF8.toList)] }

def relaying : Network where
  resolve _ _ := .ok []
  accepts _ _ := true
  secures _ _ := true
  reply _ url :=
    .response (if url.path = ["a"] then redirectTo "b" else if url.path = ["b"] then redirectTo "/c"
      else threeBytes)

def following (limit : Nat) : FetchOptions := { guardedOptions with maxRedirects := limit }

/-- Two redirects are as many as may be followed, and one too many where only one may be. -/
theorem compute_bounded_relaying :
    let source := "http://[2606:4700::1111]/a"
    (∃ sent, Bounded relaying (following 2) source [] sent
        (.ok "ba7816bf8f01cfea414140de5dae2223b00361a396177a9cb410ff61f20015ad") ∧
      sent.map (·.url.path) = [["a"], ["b"], ["c"]] ∧
      ∃ url earlier last, Starts (following 2) source url ∧ earlier.length = 2 ∧
        Chained relaying (following 2) url [] earlier last ∧
          last.reply relaying = .response threeBytes) ∧
    ∃ sent, Bounded relaying (following 1) source [] sent (.error (.tooManyRedirects 1)) ∧
      sent.map (·.url.path) = [["a"], ["b"]] ∧
      ∃ url earlier last, Starts (following 1) source url ∧ earlier.length = 1 ∧
        Chained relaying (following 1) url [] earlier last ∧
          ∃ location, last.Redirects relaying location := by
  intro source
  constructor
  · obtain ⟨events, htrace, hurls, hbounded⟩ := compute_bounded relaying (following 2) source []
    have houtcome : (compute relaying (following 2) source []).1 =
        .ok "ba7816bf8f01cfea414140de5dae2223b00361a396177a9cb410ff61f20015ad" := by
      decide +kernel
    have hpaths : (compute relaying (following 2) source []).2.requests.map (·.path) =
        [["a"], ["b"], ["c"]] := by
      decide +kernel
    rw [htrace, List.nil_append, ← hurls, List.map_map] at hpaths
    rw [houtcome] at hbounded
    refine ⟨_, hbounded, hpaths, ?_⟩
    obtain ⟨first, rest, hsent, -, hrest⟩ := List.map_eq_cons_iff.mp hpaths
    obtain ⟨second, rest, rfl, -, hrest⟩ := List.map_eq_cons_iff.mp hrest
    obtain ⟨third, rest, rfl, hpath, -⟩ := List.map_eq_cons_iff.mp hrest
    obtain ⟨-, url, hstarts, hchained⟩ :=
      (hbounded.chained_iff [first, second] third).mp ⟨rest, hsent.symm⟩
    refine ⟨url, _, third, hstarts, rfl, hchained, ?_⟩
    have hpath : third.url.path = ["c"] := hpath
    simp [Sent.reply, relaying, hpath]
  · obtain ⟨events, htrace, hurls, hbounded⟩ := compute_bounded relaying (following 1) source []
    have houtcome : (compute relaying (following 1) source []).1 = .error (.tooManyRedirects 1) := by
      decide +kernel
    have hpaths : (compute relaying (following 1) source []).2.requests.map (·.path) =
        [["a"], ["b"]] := by
      decide +kernel
    rw [htrace, List.nil_append, ← hurls, List.map_map] at hpaths
    rw [houtcome] at hbounded
    obtain ⟨-, url, earlier, last, location, hstarts, hlength, hchained, hredirects⟩ :=
      (hbounded.tooMany 1).mp rfl
    exact ⟨_, hbounded, hpaths, url, earlier, last, hstarts, hlength, hchained, location, hredirects⟩

end Fetch

end Signoff
