import Signoff.Proofs.Except
import Signoff.Proofs.Url.Host

namespace Signoff

namespace Url

/-! Where the scheme and the host of a web address come from. Only texts that name a web scheme or
no scheme at all lead to web addresses, and every host was read from a text. -/

def declaredScheme? (source : String) : Option String :=
  (splitScheme? (clean source)).map (·.1)

theorem readable_of_readSite {chars : List Char} {site : Site} (hsite : readSite chars = .ok site) :
    site.host.Readable := by
  simp only [readSite] at hsite
  split at hsite
  · cases hsite
  · obtain ⟨host, hhost, hrest⟩ := bind_eq_ok_iff.mp hsite
    obtain ⟨port, _, hresult⟩ := bind_eq_ok_iff.mp hrest
    cases hresult
    exact ⟨_, hhost⟩

theorem ofSite_eq_ok {scheme : Scheme} {chars : List Char} {url : Url}
    (hurl : ofSite scheme chars = .ok url) : url.host.Readable ∧ url.scheme = scheme := by
  obtain ⟨site, hsite, hresult⟩ := bind_eq_ok_iff.mp hurl
  cases hresult
  exact ⟨readable_of_readSite hsite, rfl⟩

theorem relative_eq_ok {base url : Url} {chars : List Char} (hbase : base.host.Readable)
    (hurl : base.relative chars = .ok url) : url.host.Readable ∧ url.scheme = base.scheme := by
  simp only [relative] at hurl
  split at hurl
  · exact ofSite_eq_ok hurl
  · split at hurl
    · cases hurl
      exact ⟨hbase, rfl⟩
    · split at hurl <;>
      · cases hurl
        exact ⟨hbase, rfl⟩

theorem map_web_eq_ok {result : Except UrlError Url} {url : Url}
    (hresult : result.map Reference.web = .ok (.web url)) : result = .ok url := by
  cases result with
  | error cause => simp [Except.map] at hresult
  | ok found => simpa [Except.map] using hresult

theorem foreignAfter_ne_web {scheme : String} {result : Except UrlError Unit} {url : Url} :
    foreignAfter scheme result ≠ .ok (.web url) := by
  cases result <;> simp [foreignAfter, Except.map]

theorem ofScheme_eq_web {scheme : String} {rest : List Char} {url : Url}
    (hurl : ofScheme scheme rest = .ok (.web url)) :
    url.host.Readable ∧ scheme = url.scheme.name := by
  simp only [ofScheme] at hurl
  split at hurl
  · obtain ⟨hhost, hscheme⟩ := ofSite_eq_ok (map_web_eq_ok hurl)
    exact ⟨hhost, by rw [hscheme]; rfl⟩
  · obtain ⟨hhost, hscheme⟩ := ofSite_eq_ok (map_web_eq_ok hurl)
    exact ⟨hhost, by rw [hscheme]; rfl⟩
  · exact absurd hurl foreignAfter_ne_web
  · exact absurd hurl foreignAfter_ne_web
  · exact absurd hurl foreignAfter_ne_web
  · exact absurd hurl foreignAfter_ne_web
  · split at hurl
    · exact absurd hurl foreignAfter_ne_web
    · cases hurl

theorem parse_eq_web {source : String} {url : Url} (hurl : parse source = .ok (.web url)) :
    url.host.Readable ∧ declaredScheme? source = some url.scheme.name := by
  simp only [parse] at hurl
  split at hurl
  · next scheme rest hsplit =>
      obtain ⟨hhost, rfl⟩ := ofScheme_eq_web hurl
      exact ⟨hhost, by simp [declaredScheme?, hsplit]⟩
  · cases hurl

/-- A text that names no scheme keeps the one of its document. -/
theorem join_eq_web {base url : Url} {source : String} (hbase : base.host.Readable)
    (hurl : base.join source = .ok (.web url)) :
    url.host.Readable ∧
      (declaredScheme? source).getD base.scheme.name = url.scheme.name := by
  simp only [join] at hurl
  split at hurl
  · next hsplit =>
      obtain ⟨hhost, hscheme⟩ := relative_eq_ok hbase (map_web_eq_ok hurl)
      exact ⟨hhost, by simp [declaredScheme?, hsplit, hscheme]⟩
  · next scheme rest hsplit =>
      split at hurl
      · next hsame =>
          obtain ⟨hhost, hscheme⟩ := relative_eq_ok hbase (map_web_eq_ok hurl)
          exact ⟨hhost, by simp [declaredScheme?, hsplit, hscheme, hsame.1]⟩
      · obtain ⟨hhost, rfl⟩ := ofScheme_eq_web hurl
        exact ⟨hhost, by simp [declaredScheme?, hsplit]⟩

end Url

end Signoff
