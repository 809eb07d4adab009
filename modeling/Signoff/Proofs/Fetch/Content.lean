import Signoff.Fetch
import Signoff.Proofs.Fetch.Body

namespace Signoff.Fetch

/-! What a digest says of the world. A fetch that gives one has gone from answer to answer to a
body that arrived in full, and whenever there is such a body the fetch gives its digest. -/

variable {network : Network} {options : FetchOptions}

/-- A chain of at most `remaining` redirects from an address to an answer that is none. -/
inductive Reaches (network : Network) (options : FetchOptions) :
    Nat → Url → Trace → Response → Trace → Prop
  | here {remaining : Nat} {url : Url} {before after : Trace} {response : Response}
      (hop : hop network options url before = (.ok response, after))
      (final : response.isRedirect = false) :
      Reaches network options remaining url before response after
  | onward {remaining : Nat} {url next : Url} {before middle after : Trace}
      {redirect response : Response} {location : String}
      (hop : hop network options url before = (.ok redirect, middle))
      (redirects : redirect.isRedirect = true)
      (header : redirect.header? "location" = some location)
      (leads : target url location = .ok next)
      (rest : Reaches network options remaining next middle response after) :
      Reaches network options (remaining + 1) url before response after

theorem follow_eq_ok_iff {remaining : Nat} {url : Url} {before after : Trace}
    {response : Response} :
    follow network options remaining url before = (.ok response, after) ↔
      Reaches network options remaining url before response after := by
  constructor
  · intro hfollow
    -- All other ways for a chain to go on or to end are errors.
    fun_induction follow network options remaining url before with
    | case1 => cases hfollow
    | case2 => cases hfollow
    | case3 => cases hfollow
    | case4 => cases hfollow
    | case5 url before redirect middle hhop hredirects location remaining hheader next hleads ih =>
        exact .onward hhop hredirects hheader hleads (ih hfollow)
    | case6 remaining url before found middle hhop hfinal =>
        cases hfollow
        exact .here hhop (Bool.eq_false_iff.mpr hfinal)
  · intro hreaches
    induction hreaches with
    | here hop final =>
        rw [follow.eq_def, hop]
        simp [final]
    | onward hop redirects header leads rest ih =>
        rw [follow, hop]
        simp [redirects, header, leads, ih]

/-- The answers from an address on end in this body, whole, of a type and a size that are
allowed. -/
def Obtains (network : Network) (options : FetchOptions) (source : String) (before : Trace)
    (body : List UInt8) (after : Trace) : Prop :=
  ∃ url response, Url.parse source = .ok (.web url) ∧
    Reaches network options options.maxRedirects url before response after ∧
      Serves options response body

theorem Reaches.congr {other : FetchOptions} {remaining : Nat} {url : Url} {before after : Trace}
    {response : Response} (hhop : hop network options = hop network other)
    (hreaches : Reaches network options remaining url before response after) :
    Reaches network other remaining url before response after := by
  induction hreaches with
  | here hop final => exact .here (hhop ▸ hop) final
  | onward hop redirects header leads rest ih =>
      exact .onward (hhop ▸ hop) redirects header leads ih

theorem obtains_withAlgorithm {source : String} {before after : Trace} {body : List UInt8}
    (algorithm : Algorithm) :
    Obtains network { options with algorithm } source before body after ↔
      Obtains network options source before body after := by
  have hhop : hop network { options with algorithm } = hop network options := rfl
  constructor
  · rintro ⟨url, response, hparse, hreaches, hserves⟩
    exact ⟨url, response, hparse, hreaches.congr hhop, hserves.success, hserves.allowed,
      hserves.complete, hserves.body_eq, hserves.bounded⟩
  · rintro ⟨url, response, hparse, hreaches, hserves⟩
    exact ⟨url, response, hparse, hreaches.congr hhop.symm, hserves.success, hserves.allowed,
      hserves.complete, hserves.body_eq, hserves.bounded⟩

theorem digestSuccess_eq_ok_iff {response : Response} {digest : String} :
    digestSuccess options response = .ok digest ↔
      ∃ body, Serves options response body ∧ options.algorithm.digest? body = some digest := by
  by_cases hsuccess : response.isSuccess = true
  · rw [digestSuccess, if_pos hsuccess]
    exact digestResponse_eq_ok_iff hsuccess
  · rw [digestSuccess, if_neg hsuccess]
    constructor
    · intro hdigest
      cases hdigest
    · rintro ⟨_, hserves, _⟩
      exact absurd hserves.success hsuccess

theorem compute_eq_ok_iff {source digest : String} {before after : Trace} :
    compute network options source before = (.ok digest, after) ↔
      ∃ body, Obtains network options source before body after ∧
        options.algorithm.digest? body = some digest := by
  constructor
  · fun_cases compute network options source before with
    | case1 => exact nofun
    | case2 => exact nofun
    | case3 => exact nofun
    | case4 => exact nofun
    | case5 halgorithm url hparse response middle hfollow =>
        intro hcompute
        obtain ⟨hdigest, rfl⟩ := Prod.mk.inj hcompute
        obtain ⟨body, hserves, hbody⟩ := digestSuccess_eq_ok_iff.mp hdigest
        exact ⟨body, ⟨url, response, hparse, follow_eq_ok_iff.mp hfollow, hserves⟩, hbody⟩
  · rintro ⟨body, ⟨url, response, hparse, hreaches, hserves⟩, hdigest⟩
    have halgorithm : options.algorithm ≠ .md5 := by
      intro hmd5
      rw [hmd5] at hdigest
      cases hdigest
    have hfollow := follow_eq_ok_iff.mpr hreaches
    have hsuccess := digestSuccess_eq_ok_iff.mpr ⟨body, hserves, hdigest⟩
    simp only [compute, halgorithm, if_false, hparse, hfollow, hsuccess]

end Signoff.Fetch
