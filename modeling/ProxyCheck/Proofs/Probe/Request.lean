import ProxyCheck.Probe.Request
import ProxyCheck.Proofs.Endpoint

/-! A request is a fixed point: built again from its own texts, it is the same. -/
namespace ProxyCheck

theorem spelled_of_targetScheme (scheme : String) (member : scheme ∈ targetSchemes) :
    Url.isSpelled scheme ∧ SchemeKind.of scheme = .special := by
  have all : ∀ s ∈ targetSchemes, Url.isSpelled s ∧ SchemeKind.of s = .special := by decide
  exact all scheme member

theorem of_parseTarget (address : String) (u : Url) (accepted : parseTarget address = .ok u) :
    Url.parse (trimBlank address) = .ok u ∧ u.scheme ∈ targetSchemes := by
  rw [parseTarget] at accepted
  split at accepted
  · cases accepted
  · rename_i v read
    split at accepted
    · rename_i known
      cases accepted
      exact ⟨read, by simpa using known⟩
    · cases accepted

/-- The host that the address of a target names is its own ASCII form. -/
def TargetStable (address : String) : Prop :=
  ∀ u h, Url.parse (trimBlank address) = .ok u → u.host = some h → h.Stable

theorem parseTarget_text (address : String) (u : Url) (accepted : parseTarget address = .ok u)
    (stable : TargetStable address) : parseTarget u.text = .ok u := by
  obtain ⟨read, scheme⟩ := of_parseTarget address u accepted
  obtain ⟨spelled, kind⟩ := spelled_of_targetScheme u.scheme scheme
  have hosts : ∀ h, u.host = some h → h.Stable := fun h hosted => stable u h read hosted
  have canonical := Url.canonical_of_ofChars _ u read spelled kind hosts
  have trimmed := trimBlank_visible u.text (u.visible_text (canonical.written u))
  have again := Url.parse_text _ u read spelled kind hosts
  rw [parseTarget, trimmed, again]
  exact if_pos (by simpa using scheme)

theorem of_ofOptions (options : Options) (request : Request)
    (built : Request.ofOptions options = .ok request) :
    ∃ target proxy, parseTarget options.target = .ok target ∧
      normalizeProxy options.proxy = .ok proxy ∧
      request = ⟨target.text, proxy, options.timeout⟩ := by
  obtain ⟨target, accepted, built⟩ := Url.of_bind _ _ request built
  obtain ⟨pair, paired, built⟩ := Url.of_bind _ _ request built
  rw [ProxyPair.ofAddress] at paired
  cases normalized : normalizeProxy options.proxy with
  | error cause =>
      rw [normalized] at paired
      cases paired
  | ok proxy =>
      rw [normalized] at paired
      cases paired
      cases built
      refine ⟨target, proxy, accepted, rfl, ?_⟩
      simp [ProxyPair.forTarget]

theorem ofOptions_of_parts (options : Options) (target : Url) (proxy : String)
    (accepted : parseTarget options.target = .ok target)
    (normalized : normalizeProxy options.proxy = .ok proxy) :
    Request.ofOptions options = .ok ⟨target.text, proxy, options.timeout⟩ := by
  rw [Request.ofOptions, accepted, ProxyPair.ofAddress, normalized]
  have same : ProxyPair.forTarget ⟨proxy, proxy⟩ target = proxy := by simp [ProxyPair.forTarget]
  exact congrArg (fun text => Except.ok (Request.mk target.text text options.timeout)) same

/-- Built again from its own texts, a request is the same. -/
theorem ofOptions_fixed (options : Options) (request : Request)
    (built : Request.ofOptions options = .ok request)
    (targetStable : TargetStable options.target)
    (proxyStable : Endpoint.NamesStable options.proxy) :
    Request.ofOptions ⟨request.proxy, request.target, request.timeout⟩ = .ok request := by
  obtain ⟨target, proxy, accepted, normalized, rfl⟩ := of_ofOptions options request built
  exact ofOptions_of_parts ⟨proxy, target.text, options.timeout⟩ target proxy
    (parseTarget_text options.target target accepted targetStable)
    (normalizeProxy_fixed options.proxy proxy normalized proxyStable)

theorem stable_of_domain (result : Except UrlError Url) (name : String)
    (found : result.toOption.bind Url.host = some (.domain name))
    (ascii : Domain.toAscii name.toList = some name.toList) :
    ∀ u h, result = .ok u → u.host = some h → h.Stable := by
  intro u h read hosted
  rw [read] at found
  have same : h = .domain name := Option.some.inj (hosted.symm.trans found)
  rw [same]
  exact ascii

def unevenOptions : Options :=
  { proxy := "u:p@EXAMPLE.com"
    target := " HTTPS:\\us er@EXAMPLE.org:443/a/%2e./b c?q='#`f " }

theorem ofOptions_fixed_uneven :
    Request.ofOptions unevenOptions =
        .ok ⟨"https://us%20er@example.org/b%20c?q=%27#%60f", "http://u:p@example.com:80",
          unevenOptions.timeout⟩ ∧
      TargetStable unevenOptions.target ∧ Endpoint.NamesStable unevenOptions.proxy ∧
      Request.ofOptions ⟨"http://u:p@example.com:80", "https://us%20er@example.org/b%20c?q=%27#%60f",
          unevenOptions.timeout⟩ =
        .ok ⟨"https://us%20er@example.org/b%20c?q=%27#%60f", "http://u:p@example.com:80",
          unevenOptions.timeout⟩ := by
  have built : Request.ofOptions unevenOptions =
      .ok ⟨"https://us%20er@example.org/b%20c?q=%27#%60f", "http://u:p@example.com:80",
        unevenOptions.timeout⟩ :=
    eq_ok_of_toOption _ _ (by decide +kernel)
  have targetStable : TargetStable unevenOptions.target :=
    stable_of_domain _ "example.org" (by decide +kernel) (by decide +kernel)
  have normalized : normalizeProxy unevenOptions.proxy = .ok "http://u:p@example.com:80" :=
    eq_ok_of_toOption _ _ (by decide +kernel)
  have proxyStable : Endpoint.NamesStable unevenOptions.proxy :=
    Endpoint.namesStable_of_plain _ _ normalized ⟨of_mem _ _ (by decide +kernel), by decide +kernel⟩
  have again := ofOptions_fixed unevenOptions _ built targetStable proxyStable
  exact ⟨built, targetStable, proxyStable, again⟩

end ProxyCheck
