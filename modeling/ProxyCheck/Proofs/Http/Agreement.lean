import ProxyCheck.Http.Client
import ProxyCheck.Proofs.Http.Uri
import ProxyCheck.Proofs.Probe.Request

/-! Two readers of a request's addresses: what has been accepted as a URL is an address for the client
too, if it is not too long and its host is one. -/
namespace ProxyCheck

namespace Uri

def Admits (text : String) (h : Host) : Prop :=
  text.utf8ByteSize ≤ lengthLimit ∧ h.fits

theorem parse_iff (text : String) (h : Host) (read : (∃ u, ofChars text.toList = .ok u) ↔ h.fits) :
    (∃ u, parse text = .ok u) ↔ Admits text h := by
  rw [parse, Admits, ← read]
  split
  · rename_i long
    constructor
    · rintro ⟨u, read⟩
      cases read
    · exact fun admitted => absurd admitted.1 (Nat.not_le.mpr long)
  · rename_i short
    constructor
    · exact fun found => ⟨Nat.le_of_not_lt short, found⟩
    · exact fun admitted => admitted.2

end Uri

theorem Endpoint.parse_uri_iff (e : Endpoint) (h : Host) (sound : e.Sound h) :
    (∃ u, Uri.parse e.text = .ok u) ↔ Uri.Admits e.text h := by
  apply Uri.parse_iff
  rw [e.toList_text h sound]
  exact Uri.ofChars_url e.scheme e.username e.password h (some e.port) [] none none sound.scheme
    sound.encoded sound.legal sound.named rfl nofun nofun

theorem Url.parse_uri_iff (u : Url) (h : Host) (written : u.Written)
    (known : u.scheme ∈ targetSchemes) (hosted : u.host = some h) :
    (∃ v, Uri.parse u.text = .ok v) ↔ Uri.Admits u.text h := by
  obtain ⟨h', hosted', legal, named⟩ := written.host
  cases hosted.symm.trans hosted'
  obtain ⟨segments, path, nonempty, settled⟩ := written.path
  have known : u.scheme ∈ proxySchemes := by
    have all : ∀ s ∈ targetSchemes, s ∈ proxySchemes := by decide
    exact all u.scheme known
  have proper : ∀ c ∈ u.path.text.toList, Uri.isPathChar c ∧ c ≠ '?' ∧ c ≠ '#' := by
    intro c member
    rw [path, toList_segments] at member
    obtain ⟨chars, source, member⟩ := List.mem_flatMap.mp member
    obtain ⟨segment, inside, rfl⟩ := List.mem_map.mp source
    rcases List.mem_cons.mp member with rfl | member
    · decide
    · exact Uri.path_of_keeps c ((settled segment inside).kept c member)
  have starts : u.tail.head?.all Uri.endsAuthority := by
    obtain ⟨first, rest, rfl⟩ := List.exists_cons_of_ne_nil nonempty
    rw [tail, path, toList_segments]
    rfl
  apply Uri.parse_iff
  rw [u.toList_text h hosted]
  refine Uri.ofChars_url u.scheme u.username u.password h u.port u.path.text.toList u.query u.fragment
    known written.encoded ?_ named starts proper ?_
  · rw [written.kind]
    exact legal
  · exact fun q asked c member => Uri.query_of_keeps c (written.query q asked c member)

def ProbeError.IsRefusal : ProbeError → Prop
  | .request message => "proxy URI rejected".toList <+: message.toList ∨
      "request creation failed".toList <+: message.toList
  | _ => False

namespace Http

theorem parseUri_eq (complaint text : String) :
    (∃ u, Uri.parse text = .ok u ∧ parseUri complaint text = .ok u) ∨
      (¬∃ u, Uri.parse text = .ok u) ∧
        ∃ why, parseUri complaint text = .error (.request (complaint ++ (": " ++ why))) := by
  rw [parseUri]
  cases Uri.parse text with
  | ok u => exact .inl ⟨u, rfl, rfl⟩
  | error cause =>
      refine .inr ⟨nofun, cause.message, ?_⟩
      rw [← String.append_assoc]
      rfl

theorem not_prefix_append (complaint start rest : List Char) (unlike : ¬complaint <+: start)
    (other : ¬start <+: complaint) : ¬complaint <+: start ++ rest := by
  intro begins
  rcases List.prefix_or_prefix_of_prefix begins (List.prefix_append start rest) with shorter | longer
  · exact unlike shorter
  · exact other longer

theorem Trouble.not_prefix (trouble : Trouble) (context : Option String) (complaint : String)
    (known : complaint = "proxy URI rejected" ∨ complaint = "request creation failed") :
    ¬complaint.toList <+: (Failure.exchange trouble context).text.toList := by
  have apart : ¬complaint.toList <+: trouble.text.toList ∧ ¬trouble.text.toList <+: complaint.toList := by
    rcases known with rfl | rfl <;> cases trouble <;> decide
  cases context with
  | none => exact apart.1
  | some context =>
      rw [Failure.text, String.append_assoc, String.toList_append]
      exact not_prefix_append _ _ _ apart.1 apart.2

theorem not_refusal (limit : UInt64) (failure : Failure) : ¬(failure.probeError limit).IsRefusal := by
  have unlike (trouble : Trouble) (context : Option String) :
      ¬(ProbeError.request (Failure.exchange trouble context).text).IsRefusal := by
    rintro (proxy | target)
    · exact trouble.not_prefix context _ (.inl rfl) proxy
    · exact trouble.not_prefix context _ (.inr rfl) target
  cases failure with
  | body late message => cases late <;> exact id
  | exchange trouble context =>
      cases trouble with
      | invalidRequest => exact unlike .invalidRequest context
      | protocol => exact unlike .protocol context
      | other => exact unlike .other context
      | _ => exact id

theorem refuses_iff (network : Network) (request : Request) :
    (∃ cause, fetch network request = .error cause ∧ cause.IsRefusal) ↔
      ¬((∃ u, Uri.parse request.proxy = .ok u) ∧ ∃ u, Uri.parse request.target = .ok u) := by
  rcases parseUri_eq "proxy URI rejected" request.proxy with ⟨proxy, parsed, read⟩ | ⟨unread, why, read⟩
  · rcases parseUri_eq "request creation failed" request.target with
      ⟨target, parsed', read'⟩ | ⟨unread, why, read'⟩
    · refine iff_of_false ?_ fun other => other ⟨⟨proxy, parsed⟩, target, parsed'⟩
      have given : addresses request = .ok (proxy, target) := by
        rw [addresses, read, read']
        rfl
      rintro ⟨cause, failed, refusal⟩
      rw [fetch, given] at failed
      simp only [bind, Except.bind] at failed
      split at failed
      · cases failed
      · cases failed
        exact not_refusal _ _ refusal
    · have failed : fetch network request =
          .error (.request ("request creation failed" ++ (": " ++ why))) := by
        rw [fetch, addresses, read, read']
        rfl
      have refusal : (ProbeError.request ("request creation failed" ++ (": " ++ why))).IsRefusal :=
        .inr (by simp)
      exact iff_of_true ⟨_, failed, refusal⟩ fun both => unread both.2
  · have failed : fetch network request =
        .error (.request ("proxy URI rejected" ++ (": " ++ why))) := by
      rw [fetch, addresses, read]
      rfl
    have refusal : (ProbeError.request ("proxy URI rejected" ++ (": " ++ why))).IsRefusal :=
      .inl (by simp)
    exact iff_of_true ⟨_, failed, refusal⟩ fun both => unread both.1

/-- The client refuses an address that has been accepted as a URL if it is too long, or if its host is
neither in brackets nor made of the characters of names; it refuses no other. -/
theorem fetch_refuses_iff (options : Options) (request : Request)
    (built : Request.ofOptions options = .ok request) :
    ∃ proxy target : Host,
      (∃ u, Endpoint.candidateUrl options.proxy = .ok u ∧ u.host = some proxy) ∧
      (∃ u, Url.parse (trimBlank options.target) = .ok u ∧ u.host = some target) ∧
      ((∃ u, Uri.parse request.proxy = .ok u) ↔ Uri.Admits request.proxy proxy) ∧
      ((∃ u, Uri.parse request.target = .ok u) ↔ Uri.Admits request.target target) ∧
      ∀ network, (∃ cause, fetch network request = .error cause ∧ cause.IsRefusal) ↔
        ¬(Uri.Admits request.proxy proxy ∧ Uri.Admits request.target target) := by
  obtain ⟨target, proxy, accepted, normalized, rfl⟩ := of_ofOptions options request built
  obtain ⟨read, scheme⟩ := of_parseTarget options.target target accepted
  obtain ⟨spelled, kind⟩ := spelled_of_targetScheme target.scheme scheme
  have written := Url.written_of_ofChars _ target read spelled kind
  obtain ⟨t, hosted, -⟩ := written.host
  obtain ⟨u, p, candidate, named, sound, rfl⟩ := of_normalizeProxy options.proxy proxy normalized
  have first := Endpoint.parse_uri_iff _ p sound
  have second := target.parse_uri_iff t written scheme hosted
  refine ⟨p, t, ⟨u, candidate, named⟩, ⟨target, read, hosted⟩, first, second, ?_⟩
  intro network
  rw [refuses_iff network, first, second]

/-- A proxy of another kind than those of the web, with a name that is not encoded as theirs are. -/
def namedOptions : Options :=
  { proxy := "socks5://b\u00FCcher.example", target := "http://probe.invalid/ip" }

theorem fetch_refuses_named :
    Request.ofOptions namedOptions =
        .ok ⟨"http://probe.invalid/ip", "socks5://b%C3%BCcher.example:1080", namedOptions.timeout⟩ ∧
      ∀ network, fetch network
          ⟨"http://probe.invalid/ip", "socks5://b%C3%BCcher.example:1080", namedOptions.timeout⟩ =
        .error (.request "proxy URI rejected: invalid authority") := by
  have built : Request.ofOptions namedOptions =
      .ok ⟨"http://probe.invalid/ip", "socks5://b%C3%BCcher.example:1080", namedOptions.timeout⟩ :=
    eq_ok_of_toOption _ _ (by decide +kernel)
  have read : parseUri "proxy URI rejected" "socks5://b%C3%BCcher.example:1080" =
      .error (.request "proxy URI rejected: invalid authority") := by
    have failed : Uri.parse "socks5://b%C3%BCcher.example:1080" = .error .invalidAuthority := by
      decide +kernel
    rw [parseUri, failed]
    rfl
  refine ⟨built, ?_⟩
  intro network
  rw [fetch, addresses, read]
  rfl

/-- A quote in the host of a proxy, and one in the path of the target. -/
def quotedOptions : Options :=
  { proxy := "socks5://u:p@a\"b:1", target := "http://probe.invalid/\"ip\"?'#\"" }

theorem fetch_refuses_iff_quoted :
    Request.ofOptions quotedOptions =
        .ok ⟨"http://probe.invalid/%22ip%22?%27#%22", "socks5://u:p@a\"b:1", quotedOptions.timeout⟩ ∧
      ∃ proxy target : Host,
        (∃ u, Endpoint.candidateUrl quotedOptions.proxy = .ok u ∧ u.host = some proxy) ∧
        (∃ u, Url.parse (trimBlank quotedOptions.target) = .ok u ∧ u.host = some target) ∧
        ((∃ u, Uri.parse "socks5://u:p@a\"b:1" = .ok u) ↔
          Uri.Admits "socks5://u:p@a\"b:1" proxy) ∧
        ((∃ u, Uri.parse "http://probe.invalid/%22ip%22?%27#%22" = .ok u) ↔
          Uri.Admits "http://probe.invalid/%22ip%22?%27#%22" target) ∧
        ∀ network, (∃ cause, fetch network ⟨"http://probe.invalid/%22ip%22?%27#%22",
            "socks5://u:p@a\"b:1", quotedOptions.timeout⟩ = .error cause ∧ cause.IsRefusal) ↔
          ¬(Uri.Admits "socks5://u:p@a\"b:1" proxy ∧
            Uri.Admits "http://probe.invalid/%22ip%22?%27#%22" target) := by
  have built : Request.ofOptions quotedOptions =
      .ok ⟨"http://probe.invalid/%22ip%22?%27#%22", "socks5://u:p@a\"b:1", quotedOptions.timeout⟩ :=
    eq_ok_of_toOption _ _ (by decide +kernel)
  exact ⟨built, fetch_refuses_iff quotedOptions _ built⟩

end Http

end ProxyCheck
