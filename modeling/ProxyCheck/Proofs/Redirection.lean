import ProxyCheck.Proofs.Endpoint
import ProxyCheck.Proofs.Url.Place

/-! Whether an address that is a URL by itself leads to the proxy that the URL names. It does if a
`://` marks its authority. Otherwise its scheme is read as a host, or as a user name. -/
namespace ProxyCheck

open Url (isLow isSchemeChar isSlash endsAuthority clean readAuthority readHost)

def NamesProxy (text scheme host : String) (port : UInt16) : Prop :=
  ∃ credentials, text = scheme ++ "://" ++ credentials ++ host ++ ":" ++ toString port.toNat ∧
    (credentials = "" ∨ ∃ userinfo, credentials = userinfo ++ "@")

theorem append_cons_inj_last (sign : Char) (front front' back back' : List Char)
    (last : sign ∉ back) (last' : sign ∉ back')
    (same : front ++ sign :: back = front' ++ sign :: back') : front = front' ∧ back = back' := by
  have turned : back.reverse ++ sign :: front.reverse = back'.reverse ++ sign :: front'.reverse := by
    simpa using congrArg List.reverse same
  obtain ⟨take, drop⟩ := Url.span_sign sign back.reverse (sign :: front.reverse)
    (by simpa using last) (by simp)
  obtain ⟨take', drop'⟩ := Url.span_sign sign back'.reverse (sign :: front'.reverse)
    (by simpa using last') (by simp)
  rw [turned, take'] at take
  rw [turned, drop', List.cons.injEq] at drop
  exact ⟨(List.reverse_inj.mp drop.2).symm, (List.reverse_inj.mp take).symm⟩

/-- Credentials end at the last at sign, so that what follows them can be told from the whole. -/
theorem place_of_credentials (credentials host : String) (apart : '@' ∉ host.toList)
    (ends : credentials = "" ∨ ∃ userinfo, credentials = userinfo ++ "@") :
    ((Url.splitLastAt (credentials.toList ++ host.toList)).getD
      ([], credentials.toList ++ host.toList)).2 = host.toList := by
  rcases ends with rfl | ⟨userinfo, rfl⟩
  · rw [String.toList_empty, List.nil_append, Url.splitLastAt_none _ apart]
    rfl
  · have split := Url.splitLastAt_append userinfo.toList host.toList apart
    have text : (userinfo ++ "@").toList ++ host.toList = userinfo.toList ++ '@' :: host.toList := by
      simp
    rw [text, split]
    rfl

theorem namesProxy_unique (text scheme scheme' host host' : String) (port port' : UInt16)
    (plain : ':' ∉ scheme.toList) (plain' : ':' ∉ scheme'.toList)
    (apart : '@' ∉ host.toList) (apart' : '@' ∉ host'.toList)
    (first : NamesProxy text scheme host port) (second : NamesProxy text scheme' host' port') :
    scheme = scheme' ∧ host = host' ∧ port = port' := by
  obtain ⟨credentials, whole, ends⟩ := first
  obtain ⟨credentials', whole', ends'⟩ := second
  have same : scheme.toList ++ ':' :: '/' :: '/' :: ((credentials.toList ++ host.toList) ++
        ':' :: (toString port.toNat).toList) =
      scheme'.toList ++ ':' :: '/' :: '/' :: ((credentials'.toList ++ host'.toList) ++
        ':' :: (toString port'.toNat).toList) := by
    simpa using congrArg String.toList (whole.symm.trans whole')
  obtain ⟨take, drop⟩ := Url.span_sign ':' scheme.toList (':' :: '/' :: '/' ::
    ((credentials.toList ++ host.toList) ++ ':' :: (toString port.toNat).toList)) plain rfl
  obtain ⟨take', drop'⟩ := Url.span_sign ':' scheme'.toList (':' :: '/' :: '/' ::
    ((credentials'.toList ++ host'.toList) ++ ':' :: (toString port'.toNat).toList)) plain' rfl
  rw [same, take'] at take
  rw [same, drop'] at drop
  simp only [List.cons.injEq, true_and] at drop
  have digits (n : Nat) : ':' ∉ (toString n).toList := fun member =>
    absurd (isDigit_of_mem_toString n ':' member) (by decide)
  obtain ⟨places, ports⟩ := append_cons_inj_last ':' _ _ _ _ (digits _) (digits _) drop
  have hosts := place_of_credentials credentials host apart ends
  rw [← places, place_of_credentials credentials' host' apart' ends'] at hosts
  refine ⟨(String.toList_inj.mp take).symm, (String.toList_inj.mp hosts).symm, ?_⟩
  exact UInt16.toNat_inj.mp (toString_injective _ _ (String.toList_inj.mp ports)).symm

theorem Endpoint.namesProxy_iff (e : Endpoint) (h k : Host) (sound : e.Sound h) (scheme : String)
    (special : Bool) (port : UInt16) (spelled : Url.isSpelled scheme) (legal : k.Legal special) :
    NamesProxy e.text scheme k.text port ↔ e.scheme = scheme ∧ h.text = k.text ∧ e.port = port := by
  have own : NamesProxy e.text e.scheme h.text e.port := by
    refine ⟨Url.credentials e.username e.password, by rw [text, sound.host], ?_⟩
    cases e.password with
    | some password => exact .inr ⟨_, rfl⟩
    | none =>
        by_cases empty : e.username = ""
        · exact .inl (by simp [Url.credentials, empty])
        · exact .inr ⟨e.username, by simp [Url.credentials, empty]⟩
  constructor
  · intro other
    exact namesProxy_unique e.text _ _ _ _ _ _
      (Url.colon_not_mem e.scheme (spelled_of_proxyScheme e.scheme sound.scheme).1)
      (Url.colon_not_mem scheme spelled) (h.at_not_mem _ sound.legal) (k.at_not_mem _ legal)
      own other
  · rintro ⟨rfl, same, rfl⟩
    rw [← same]
    exact own

namespace Url

theorem authority_of_http (text rest : List Char) (u : Url) (read : ofChars text = .ok u)
    (split : splitScheme (clean text) = some ("http", rest)) :
    u.scheme = "http" ∧ ∃ a tail, readAuthority "http" true (rest.dropWhile (isSlash true)) = .ok (a, tail) ∧
      u.host = some a.host ∧ u.port = a.port := by
  obtain ⟨rest', split', how⟩ := readAs_of_ofChars text u read
  rw [split, Option.some.injEq, Prod.mk.injEq] at split'
  obtain ⟨http, rfl⟩ := split'
  refine ⟨http.symm, ?_⟩
  have special : SchemeKind.of u.scheme = .special := by
    rw [← http]
    rfl
  cases how with
  | file host tail whole =>
      rw [whole] at special
      cases special
  | web a tail kind authority whole =>
      rw [← http] at authority
      refine ⟨a, tail, authority, ?_, ?_⟩
      · rw [whole]
        rfl
      · rw [whole]
        rfl
  | named place a tail other => exact nomatch special.symm.trans other
  | bare other => exact nomatch special.symm.trans other

structure MeansHttp (raw : List Char) : Prop where
  letter : raw.head?.any Char.isAlpha
  schemed : ∀ c ∈ raw, isSchemeChar c
  lower : raw.map Char.toLower = "http".toList

theorem of_low_or_schemeChar (c : Char) (plain : isLow c ∨ isSchemeChar c) :
    c.toNat < 0x80 ∧ endsAuthority true c = false ∧ isSlash true c = false ∧ c ≠ '@' ∧ c ≠ ':' ∧
      c ≠ '[' ∧ c ≠ ']' ∧ c ≠ '%' := by
  have ascii : c.toNat < 0x80 := by
    rcases plain with low | schemed
    · simp only [isLow, decide_eq_true_eq] at low
      omega
    · exact ascii_of_isSchemeChar c schemed
  exact of_ascii (fun c => isLow c ∨ isSchemeChar c → c.toNat < 0x80 ∧ endsAuthority true c = false ∧
    isSlash true c = false ∧ c ≠ '@' ∧ c ≠ ':' ∧ c ≠ '[' ∧ c ≠ ']' ∧ c ≠ '%') (by decide) c ascii plain

theorem host_of_meansHttp (lead raw : List Char) (h : Host) (low : ∀ c ∈ lead, isLow c)
    (means : MeansHttp raw) (read : readHost true (lead ++ raw) = .ok h) : h = .domain "http" := by
  have control (c : Char) (member : c ∈ lead) :
      c.toLower = c ∧ c ≠ 'x' ∧ Domain.isNameChar c = false :=
    of_ascii (fun c => isLow c → c.toLower = c ∧ c ≠ 'x' ∧ Domain.isNameChar c = false)
      (by decide) c (of_low_or_schemeChar c (.inl (low c member))).1 (low c member)
  have each : ∀ c ∈ lead ++ raw, c.toNat < 0x80 ∧ c ≠ '[' ∧ c ≠ '%' := by
    intro c member
    have plain : isLow c ∨ isSchemeChar c :=
      (List.mem_append.mp member).imp (low c) (means.schemed c)
    obtain ⟨ascii, -, -, -, -, bracket, -, percent⟩ := of_low_or_schemeChar c plain
    exact ⟨ascii, bracket, percent⟩
  have lowered : (lead ++ raw).map Char.toLower = lead ++ "http".toList := by
    rw [List.map_append, means.lower, Host.map_toLower lead fun c member => (control c member).1]
  have plain : Domain.isPlain (lead ++ raw) := by
    apply Host.isPlain_of_absent _ fun c member => decide_eq_true (each c member).1
    rw [lowered, List.mem_append, not_or]
    exact ⟨fun member => (control 'x' member).2.1 rfl, by decide⟩
  have bare : (lead ++ raw).head? ≠ some '[' := fun first =>
    (each '[' (List.mem_of_head? first)).2.1 rfl
  have named : Host.ofName "http".toList = .ok (.domain "http") := by decide
  rw [readHost, if_pos rfl] at read
  split at read
  · cases read
  · rw [Host.ofSpecial_ascii _ (fun c member => ⟨(each c member).1, (each c member).2.2⟩) bare,
      Domain.toAscii, if_pos plain, lowered, Option.filter_some] at read
    cases lead with
    | nil =>
        rw [List.nil_append, if_pos (by decide), Option.elim_some, named] at read
        exact (Except.ok.inj read).symm
    | cons c lead =>
        have refused := (control c List.mem_cons_self).2.2
        rw [if_neg (by simp [refused])] at read
        cases read

theorem dropWhile_isSlash (cs : List Char) (some : authorityOf true cs ≠ []) :
    cs.dropWhile (isSlash true) = cs := by
  cases cs with
  | nil => rfl
  | cons c cs =>
      apply List.dropWhile_cons_of_neg
      intro slash
      exact some (List.takeWhile_cons_of_neg (by simp [endsAuthority, slash]))

section Twice

variable (lead raw rest tail tail' : List Char) (a b : Authority) (low : ∀ c ∈ lead, isLow c)
  (means : MeansHttp raw)

include low means

theorem inside_scheme : ∀ c ∈ lead ++ raw ++ [':'], (!endsAuthority true c) ∧ c ≠ '@' := by
  have plain (c : Char) (known : isLow c ∨ isSchemeChar c) : (!endsAuthority true c) ∧ c ≠ '@' := by
    obtain ⟨-, inside, -, other, -⟩ := of_low_or_schemeChar c known
    exact ⟨by rw [inside]; rfl, other⟩
  intro c member
  simp only [List.mem_append, List.mem_singleton] at member
  rcases member with (front | schemed) | rfl
  · exact plain c (.inl (low c front))
  · exact plain c (.inr (means.schemed c schemed))
  · decide

theorem authorityOf_scheme :
    authorityOf true (lead ++ raw ++ [':'] ++ rest) = lead ++ raw ++ [':'] ++ authorityOf true rest :=
  authorityOf_append true _ rest fun c member => (inside_scheme lead raw low means c member).1

theorem at_mem_iff :
    '@' ∈ authorityOf true (lead ++ raw ++ [':'] ++ rest) ↔ '@' ∈ authorityOf true rest := by
  rw [authorityOf_scheme lead raw rest low means, List.mem_append]
  exact or_iff_right fun member => (inside_scheme lead raw low means '@' member).2 rfl

theorem host_is_scheme (absent : '@' ∉ authorityOf true rest)
    (read : readAuthority "http" true (lead ++ raw ++ [':'] ++ rest) = .ok (a, tail)) :
    a.host = .domain "http" ∧ (∀ c ∈ authorityOf true rest, c.isDigit) ∧
      (authorityOf true rest = [] → a.port = none) := by
  have outside : ∀ c ∈ lead ++ raw, c ≠ ':' ∧ c ≠ '[' ∧ c ≠ ']' := by
    intro c member
    obtain ⟨-, -, -, -, colon, opening, closing, -⟩ := of_low_or_schemeChar c
      ((List.mem_append.mp member).imp (low c) (means.schemed c))
    exact ⟨colon, opening, closing⟩
  have place : writtenPlace true (lead ++ raw ++ [':'] ++ rest) =
      (lead ++ raw) ++ ':' :: authorityOf true rest := by
    have none := mt (at_mem_iff lead raw rest low means).mp absent
    rw [writtenPlace_of_absent true _ none, authorityOf_scheme lead raw rest low means]
    simp
  obtain ⟨-, host, port, -⟩ := place_of_readAuthority "http" true _ tail a read
  rw [place, Host.splitHost_outside (lead ++ raw) _ outside rfl] at host port
  rw [List.dropWhile_append_of_pos fun c member => (inside_scheme lead raw low means c member).1] at port
  have within : ∀ c ∈ authorityOf true rest, endsAuthority true c = false := by
    intro c member
    simpa using List.mem_takeWhile_imp member
  have ends : (rest.dropWhile fun c => !endsAuthority true c).head?.all (endsAuthority true) := by
    simpa only [Bool.not_not] using head?_dropWhile (fun c => !endsAuthority true c) rest
  exact ⟨host_of_meansHttp lead raw a.host low means host,
    digits_of_readPort "http" (authorityOf true rest) _ tail a.port within ends port⟩

/-- Read by itself and read after something in front, a text has one place exactly if an at sign
parts the scheme from that place, or the place is the scheme's name at its own port. -/
theorem same_place_iff
    (readA : readAuthority "http" true (rest.dropWhile (isSlash true)) = .ok (a, tail))
    (readB : readAuthority "http" true (lead ++ raw ++ [':'] ++ rest) = .ok (b, tail')) :
    (b.host.text = a.host.text ∧ b.port.getD 80 = a.port.getD 80) ↔
      '@' ∈ authorityOf true rest ∨ (a.host.text = "http" ∧ a.port.getD 80 = 80) := by
  by_cases at_ : '@' ∈ authorityOf true rest
  · rw [dropWhile_isSlash rest (List.ne_nil_of_mem at_)] at readA
    obtain ⟨host, port⟩ := place_readAuthority_append "http" true _ rest tail tail' a b
      (fun c member => (inside_scheme lead raw low means c member).1) at_ readA readB
    rw [host, port]
    exact iff_of_true ⟨rfl, rfl⟩ (.inl at_)
  · obtain ⟨host, digits, unwritten⟩ := host_is_scheme lead raw rest tail' b low means at_ readB
    rw [host]
    by_cases empty : authorityOf true rest = []
    · rw [unwritten empty]
      constructor
      · rintro ⟨name, port⟩
        exact .inr ⟨name.symm, port.symm⟩
      · rintro (found | ⟨name, port⟩)
        · exact absurd found at_
        · exact ⟨name.symm, port.symm⟩
    -- Digits after the colon are the host of the one reading and the port of the other.
    · rw [dropWhile_isSlash rest empty] at readA
      obtain ⟨-, read, -⟩ := place_of_readAuthority "http" true rest tail a readA
      have split := Host.splitHost_outside (authorityOf true rest) []
        (fun c member => (Host.of_isDigit c (digits c member)).2) rfl
      rw [List.append_nil] at split
      rw [writtenPlace_of_absent true rest at_, split] at read
      obtain ⟨address, numeric⟩ := Host.ipv4_of_digits _ a.host digits read
      have unlike : a.host.text ≠ "http" := by
        intro same
        rw [numeric] at same
        have letter := address.mem_text 'h' (by rw [← Host.text, same]; decide)
        exact absurd letter (by decide)
      exact iff_of_false (fun both => unlike both.1.symm) (by simp [at_, unlike])

end Twice

theorem splitScheme_prefixed (text : List Char) (u : Url) (full : ofChars text = .ok u) :
    ∃ lead, (∀ c ∈ lead, isLow c) ∧
      splitScheme (clean ("http://".toList ++ text)) = some ("http", '/' :: '/' :: (lead ++ clean text)) := by
  obtain ⟨rest, split, -⟩ := readAs_of_ofChars text u full
  have nonempty : clean text ≠ [] := by
    intro empty
    rw [empty] at split
    cases split
  obtain ⟨lead, low, cleaned⟩ := clean_append "http://".toList text
    (of_mem (isVisible ·) "http://".toList (by decide)) (by decide) nonempty
  refine ⟨lead, low, ?_⟩
  rw [cleaned]
  exact splitScheme_append "http".toList _ rfl (of_mem (isSchemeChar ·) "http".toList (by decide))

theorem scheme_prefixed (text : List Char) (u v : Url) (full : ofChars text = .ok u)
    (prefixed : ofChars ("http://".toList ++ text) = .ok v) : v.scheme = "http" := by
  obtain ⟨lead, -, split⟩ := splitScheme_prefixed text u full
  exact (authority_of_http _ _ v prefixed split).1

theorem effectivePort_http (u : Url) (http : u.scheme = "http") :
    u.effectivePort = u.port.getD 80 := by
  rw [effectivePort, portOrDefault?, http]
  cases u.port <;> rfl

/-- A plain web URL names the same place with `http://` in front exactly if an at sign stands in its
authority and the scheme before that, or if the place is called `http`. -/
theorem place_prefixed_iff (text : List Char) (u v : Url) (h k : Host) (full : ofChars text = .ok u)
    (http : u.scheme = "http") (hosted : u.host = some h)
    (prefixed : ofChars ("http://".toList ++ text) = .ok v) (hosted' : v.host = some k) :
    (k.text = h.text ∧ v.effectivePort = u.effectivePort) ↔
      '@' ∈ authorityOf true (clean text) ∨ (h.text = "http" ∧ u.effectivePort = 80) := by
  obtain ⟨lead, low, split'⟩ := splitScheme_prefixed text u full
  obtain ⟨rest, split, -⟩ := readAs_of_ofChars text u full
  rw [http] at split
  obtain ⟨raw, whole, letter, schemed, lower⟩ := of_splitScheme _ rest _ split
  have means : MeansHttp raw := by
    refine ⟨letter, schemed, ?_⟩
    rw [lower, String.toList_ofList]
  obtain ⟨-, a, tail, readA, hostA, portA⟩ := authority_of_http text rest u full split
  obtain ⟨http', b, tail', readB, hostB, portB⟩ := authority_of_http _ _ v prefixed split'
  have parted : lead ++ (raw ++ ':' :: rest) = lead ++ raw ++ [':'] ++ rest := by simp
  have some : authorityOf true (lead ++ raw ++ [':'] ++ rest) ≠ [] := by
    rw [authorityOf_scheme lead raw rest low means]
    simp
  have slash : isSlash true '/' := rfl
  rw [List.dropWhile_cons_of_pos slash, List.dropWhile_cons_of_pos slash, whole, parted,
    dropWhile_isSlash _ some] at readB
  rw [hosted, Option.some.injEq] at hostA
  rw [hosted', Option.some.injEq] at hostB
  have own : '@' ∈ authorityOf true (raw ++ ':' :: rest) ↔ '@' ∈ authorityOf true rest := by
    simpa using at_mem_iff [] raw rest (by simp) means
  rw [effectivePort_http u http, effectivePort_http v http', portA, portB, hostA, hostB, whole, own]
  exact same_place_iff lead raw rest tail tail' a b low means readA readB

end Url

/-- The full form of an address that is a URL by itself names the scheme, the host and the port of
that URL exactly if the address has a `://`, or if it is a plain web URL and either has an at sign
before any slash or names the host `http` at its usual port. -/
theorem place_kept_iff (address text host : String) (u : Url)
    (full : Url.parse (trimBlank address) = .ok u) (known : u.scheme ∈ proxySchemes)
    (named : u.hostText? = some host) (normalized : normalizeProxy address = .ok text) :
    NamesProxy text u.scheme host u.effectivePort ↔
      hasAuthority (trimBlank address).toList ∨
        (u.scheme = "http" ∧
          ('@' ∈ Url.authorityOf true (clean (trimBlank address).toList) ∨
            (host = "http" ∧ u.effectivePort = 80))) := by
  obtain ⟨v, k, candidate, hosted', sound, rfl⟩ := of_normalizeProxy address text normalized
  obtain ⟨h, hosted, rfl, -⟩ := Endpoint.of_hostText? u host named
  obtain ⟨spelled, kind⟩ := Endpoint.spelled_of_proxyScheme u.scheme known
  rw [Url.parse] at full
  obtain ⟨-, legal, -⟩ := Url.authority_of_ofChars _ u h full kind hosted
  rw [Endpoint.namesProxy_iff _ k h sound u.scheme _ _ spelled legal]
  have scheme : (Endpoint.ofUrl v k.text).scheme = v.scheme := rfl
  have port : (Endpoint.ofUrl v k.text).port = v.effectivePort := rfl
  have trimmed : trimBoth isBlank address.toList = (trimBlank address).toList := by
    rw [trimBlank, String.toList_ofList]
  rw [Endpoint.candidateUrl, trimmed] at candidate
  rw [scheme, port]
  generalize (trimBlank address).toList = chars at full candidate
  by_cases marked : hasAuthority chars
  · rw [Endpoint.candidate, if_pos marked, full] at candidate
    cases candidate
    cases hosted.symm.trans hosted'
    exact iff_of_true ⟨rfl, rfl, rfl⟩ (.inl marked)
  · rw [Endpoint.candidate, if_neg marked] at candidate
    have http := Url.scheme_prefixed chars u v full candidate
    by_cases same : u.scheme = "http"
    · have place := Url.place_prefixed_iff chars u v h k full same hosted candidate hosted'
      rw [http, same]
      simp only [true_and, marked, false_or, place, Bool.false_eq_true]
    · refine iff_of_false (fun both => same (both.1.symm.trans http)) ?_
      rintro (found | ⟨other, -⟩)
      · exact marked found
      · exact same other

def webProxy (scheme username : String) (port : Option UInt16) : Url :=
  ⟨scheme, username, none, some (.domain "proxy.lan"), port, .segments [""], none, none⟩

/-- With one slash, the proxy is a host that has the name of the scheme. With none, it is right if
there is a user name, and the scheme goes in front of that. -/
theorem place_kept_iff_slash :
    Url.parse (trimBlank "https:/proxy.lan:8443") = .ok (webProxy "https" "" (some 8443)) ∧
      normalizeProxy "https:/proxy.lan:8443" = .ok "http://https:80" ∧
      ¬NamesProxy "http://https:80" "https" "proxy.lan" 8443 ∧
      Url.parse (trimBlank "HTTP:us@proxy.lan:3128") = .ok (webProxy "http" "us" (some 3128)) ∧
      normalizeProxy "HTTP:us@proxy.lan:3128" = .ok "http://HTTP:us@proxy.lan:3128" ∧
      NamesProxy "http://HTTP:us@proxy.lan:3128" "http" "proxy.lan" 3128 := by
  have slash : Url.parse (trimBlank "https:/proxy.lan:8443") =
      .ok (webProxy "https" "" (some 8443)) := by
    decide +kernel
  have slashFull : normalizeProxy "https:/proxy.lan:8443" = .ok "http://https:80" := by
    decide +kernel
  have user : Url.parse (trimBlank "HTTP:us@proxy.lan:3128") =
      .ok (webProxy "http" "us" (some 3128)) := by
    decide +kernel
  have userFull : normalizeProxy "HTTP:us@proxy.lan:3128" =
      .ok "http://HTTP:us@proxy.lan:3128" := by
    decide +kernel
  have lost := place_kept_iff _ _ "proxy.lan" _ slash (by decide) (by decide) slashFull
  have kept := place_kept_iff _ _ "proxy.lan" _ user (by decide) (by decide) userFull
  refine ⟨slash, slashFull, ?_, user, userFull, kept.mpr (.inr ⟨rfl, .inl (by decide)⟩)⟩
  intro names
  rcases lost.mp names with marked | ⟨http, -⟩
  · exact absurd marked (by decide)
  · exact absurd http (by decide)

end ProxyCheck
