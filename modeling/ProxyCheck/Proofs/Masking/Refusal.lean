import ProxyCheck.Proofs.Endpoint
import ProxyCheck.Proofs.Masking.Address
import ProxyCheck.Proofs.Url.Place

/-! An address that is refused tells nothing of its password: neither the reason nor the address that
is shown with it depends on that. -/
namespace ProxyCheck

open Url (Inner Schemed site)

def Endpoint.refusal (shown : String) :
    Except UrlError (String × Option Host) → Option AddressError
  | .error cause => some (.invalidProxy shown cause)
  | .ok (scheme, host) =>
    if !proxySchemes.contains scheme then some (.unsupportedProxyScheme scheme)
    else if ((host.map Host.text).filter fun name => !name.isEmpty).isNone then some (.missingHost shown)
    else none

theorem Endpoint.ofAddress_error_iff (address : String) (cause : AddressError)
    (some : trimBoth isBlank address.toList ≠ []) :
    ofAddress address = .error cause ↔
      refusal (maskAddress (trimBlank address)) ((candidateUrl address).map site) = .some cause := by
  have answer := answer_ofAddress address
  generalize ofAddress address = result at answer ⊢
  cases answer with
  | empty blank => exact absurd blank some
  | invalid reason read => simp [read, refusal, Except.map]
  | unsupported u read other => simp [read, refusal, Except.map, site, other]
  | hostless u read known unnamed =>
      rw [Url.hostText?] at unnamed
      simp [read, refusal, Except.map, site, known, unnamed]
  | accepted u host read known named =>
      rw [Url.hostText?] at named
      simp [read, refusal, Except.map, site, known, named]

theorem normalizeProxy_error_iff (address : String) (cause : AddressError) :
    normalizeProxy address = .error cause ↔ Endpoint.ofAddress address = .error cause := by
  rw [normalizeProxy]
  cases Endpoint.ofAddress address <;> simp [Except.map]

/-- What stands in front of the user name of an address: a scheme other than that of files, or
nothing, and then no authority is marked after the password either. -/
inductive Fronts : List Char → List Char → Prop where
  | bare (back : List Char) (absent : ¬"://".toList <:+: back) : Fronts [] back
  | schemed (scheme back : List Char) (schemed : Schemed scheme)
    (other : String.ofList (scheme.map Char.toLower) ≠ "file") :
    Fronts (scheme ++ "://".toList) back

theorem trimBoth_fronts (front user back : List Char) (fronts : Fronts front back) :
    ∃ left right, Fronts front right ∧ (∀ c ∈ left, c ∈ user) ∧ ∀ secret,
      trimBoth isBlank (front ++ (user ++ ':' :: (secret ++ '@' :: back))) =
        front ++ (left ++ ':' :: (secret ++ '@' :: right)) := by
  have trimmed (secret : List Char) :=
    trimBoth_between isBlank (front ++ user) secret back ':' '@' rfl rfl
  cases fronts with
  | bare back absent =>
      refine ⟨user.dropWhile isBlank, dropTrailing isBlank back, .bare _ ?_, ?_, ?_⟩
      · intro found
        obtain ⟨dropped, split, -⟩ := dropTrailing_append isBlank back
        apply absent
        rw [split]
        exact found.trans (List.prefix_append _ dropped).isInfix
      · intro c member
        exact (List.dropWhile_sublist _).subset member
      · intro secret
        simpa using trimmed secret
  | schemed scheme back schemed other =>
      refine ⟨user, dropTrailing isBlank back, .schemed scheme _ schemed other, fun c member => member, ?_⟩
      intro secret
      have start : (scheme ++ "://".toList ++ user).dropWhile isBlank =
          scheme ++ "://".toList ++ user := by
        have letter := schemed.letter
        cases scheme with
        | nil => cases letter
        | cons c scheme =>
            have visible := (Url.of_isSchemeChar c (schemed.plain c List.mem_cons_self)).1
            rw [List.cons_append, List.cons_append, List.dropWhile_cons_of_neg]
            simp [isBlank_of_visible c visible]
      have whole := trimmed secret
      rw [start] at whole
      simpa using whole

theorem slash_not_mem (secret : List Char) (inner : Inner secret) : '/' ∉ secret := by
  intro member
  have inside := inner.inside '/' member
  exact absurd inside (by decide)

theorem splitAtAuthority_bare (user secret back : List Char) (slash : '/' ∉ user) (inner : Inner secret)
    (absent : ¬"://".toList <:+: back) :
    splitAtAuthority (user ++ ':' :: (secret ++ '@' :: back)) = none := by
  have clean := slash_not_mem secret inner
  have split := splitAtAuthority_at (user ++ ':' :: secret) back (by simp [slash, clean])
  have whole : user ++ ':' :: (secret ++ '@' :: back) = (user ++ ':' :: secret) ++ '@' :: back := by simp
  rw [whole, split]
  exact (splitAtAuthority_eq_none_iff back).mpr absent

theorem maskAddressChars_password (front user back : List Char) (fronts : Fronts front back)
    (slash : '/' ∉ user) :
    ∃ shown, ∀ secret, Inner secret →
      maskAddressChars (front ++ (user ++ ':' :: (secret ++ '@' :: back))) = shown := by
  obtain ⟨shown, covers⟩ := maskAuthority_covers (user ++ [':']) ('@' :: back) (by simp [slash])
    (by simp) (by simp)
  refine ⟨front ++ shown, ?_⟩
  intro secret inner
  have opens : Opens front (user ++ ':' :: (secret ++ '@' :: back)) := by
    cases fronts with
    | schemed scheme back schemed other =>
        apply Opens.schemed
        intro found
        have colon := schemed.plain ':' (found.subset (by simp))
        exact absurd colon (by decide)
    | bare back absent =>
        apply Opens.bare
        rw [← splitAtAuthority_eq_none_iff]
        exact splitAtAuthority_bare user secret back slash inner absent
  have covered := covers secret (slash_not_mem secret inner)
  rw [List.append_assoc] at covered
  rw [maskAddressChars_opens _ _ opens]
  exact congrArg (front ++ ·) covered

/-- What is read of an address does not depend on its password, as far as a refusal does on that. -/
theorem site_candidate_password (front user back : List Char) (fronts : Fronts front back)
    (colon : ':' ∉ user) (slash : '/' ∉ user) :
    ∃ result, ∀ secret, Inner secret →
      (Url.ofChars (Endpoint.candidate
        (front ++ (user ++ ':' :: (secret ++ '@' :: back))))).map site = result := by
  cases fronts with
  | schemed scheme back schemed other =>
      obtain ⟨result, hides⟩ := Url.site_ofChars_password scheme user back schemed other colon
      refine ⟨result, ?_⟩
      intro secret inner
      have whole : scheme ++ "://".toList ++ (user ++ ':' :: (secret ++ '@' :: back)) =
          scheme ++ ':' :: '/' :: '/' :: (user ++ ':' :: (secret ++ '@' :: back)) := by simp
      rw [whole, Endpoint.candidate, if_pos (Endpoint.hasAuthority_append _ _), hides secret inner]
  | bare back absent =>
      have schemed : Schemed "http".toList := ⟨rfl, of_mem (Url.isSchemeChar ·) _ (by decide)⟩
      obtain ⟨result, hides⟩ :=
        Url.site_ofChars_password "http".toList user back schemed (by decide) colon
      refine ⟨result, ?_⟩
      intro secret inner
      have none : hasAuthority (user ++ ':' :: (secret ++ '@' :: back)) = false := by
        rw [hasAuthority, splitAtAuthority_bare user secret back slash inner absent]
        rfl
      rw [List.nil_append, Endpoint.candidate, none, if_neg Bool.false_ne_true, ← hides secret inner]
      rfl

structure IsPassword (password : String) : Prop where
  nonempty : password ≠ ""
  plain : ∀ c ∈ password.toList, c ∉ "/\\?#\t\r\n".toList

theorem IsPassword.inner (password : String) (isPassword : IsPassword password) :
    Inner password.toList := by
  have apart (sign : Char) (listed : sign ∈ "/\\?#\t\r\n".toList) : ∀ c ∈ password.toList, c ≠ sign := by
    rintro c member rfl
    exact isPassword.plain c member listed
  constructor
  case nonempty => exact fun empty => isPassword.nonempty (String.toList_inj.mp empty)
  case inside =>
    intro c member
    have slash := apart '/' (by decide) c member
    have backslash := apart '\\' (by decide) c member
    have question := apart '?' (by decide) c member
    have hash := apart '#' (by decide) c member
    simp [Url.endsAuthority, Url.isSlash, Url.endsPath, slash, backslash, question, hash]
  case kept =>
    intro c member
    have tab := apart '\t' (by decide) c member
    have line := apart '\n' (by decide) c member
    have carriage := apart '\r' (by decide) c member
    simp [Url.isKept, tab, line, carriage]

/-- Two addresses that differ in their password are refused for the same cause, with the same text, or
neither of them is refused. -/
theorem refusal_hides_password (front user back first second : String) (cause : AddressError)
    (fronts : Fronts front.toList back.toList) (plain : ':' ∉ user.toList ∧ '/' ∉ user.toList)
    (one : IsPassword first) (two : IsPassword second) :
    normalizeProxy (front ++ user ++ ":" ++ first ++ "@" ++ back) = .error cause ↔
      normalizeProxy (front ++ user ++ ":" ++ second ++ "@" ++ back) = .error cause := by
  obtain ⟨left, right, later, fewer, trimmed⟩ :=
    trimBoth_fronts front.toList user.toList back.toList fronts
  have colon : ':' ∉ left := fun member => plain.1 (fewer ':' member)
  have slash : '/' ∉ left := fun member => plain.2 (fewer '/' member)
  obtain ⟨shown, masks⟩ := maskAddressChars_password front.toList left right later slash
  obtain ⟨result, reads⟩ := site_candidate_password front.toList left right later colon slash
  have refused (password : String) (isPassword : IsPassword password) :
      normalizeProxy (front ++ user ++ ":" ++ password ++ "@" ++ back) = .error cause ↔
        Endpoint.refusal (String.ofList shown) result = some cause := by
    have inner := isPassword.inner
    have text : (front ++ user ++ ":" ++ password ++ "@" ++ back).toList =
        front.toList ++ (user.toList ++ ':' :: (password.toList ++ '@' :: back.toList)) := by simp
    have same := trimmed password.toList
    rw [← text] at same
    have some : trimBoth isBlank (front ++ user ++ ":" ++ password ++ "@" ++ back).toList ≠ [] := by
      rw [same]
      simp
    rw [normalizeProxy_error_iff, Endpoint.ofAddress_error_iff _ _ some, maskAddress, trimBlank,
      String.toList_ofList, Endpoint.candidateUrl, same, masks _ inner, reads _ inner]
  rw [refused first one, refused second two]

/-- A password with a colon and an at sign of its own is no less hidden than a plain one. -/
theorem refusal_hides_password_awkward :
    Fronts "Socks5://".toList "bad host/x@y".toList ∧ IsPassword "s3cret" ∧ IsPassword "t:w@o " ∧
      normalizeProxy "Socks5://al@ice:s3cret@bad host/x@y" =
        .error (.invalidProxy "Socks5://al@ice:***@bad host/x@y" .invalidHostCharacter) ∧
      normalizeProxy "Socks5://al@ice:t:w@o @bad host/x@y" =
        .error (.invalidProxy "Socks5://al@ice:***@bad host/x@y" .invalidHostCharacter) := by
  have fronts : Fronts "Socks5://".toList "bad host/x@y".toList :=
    .schemed "Socks5".toList _ ⟨rfl, of_mem (Url.isSchemeChar ·) _ (by decide)⟩ (by decide)
  have one : IsPassword "s3cret" := ⟨by decide, of_mem (· ∉ "/\\?#\t\r\n".toList) _ (by decide)⟩
  have two : IsPassword "t:w@o " := ⟨by decide, of_mem (· ∉ "/\\?#\t\r\n".toList) _ (by decide)⟩
  have hides := refusal_hides_password "Socks5://" "al@ice" "bad host/x@y" "s3cret" "t:w@o "
    (.invalidProxy "Socks5://al@ice:***@bad host/x@y" .invalidHostCharacter) fronts (by decide) one two
  have refused : normalizeProxy "Socks5://al@ice:s3cret@bad host/x@y" =
      .error (.invalidProxy "Socks5://al@ice:***@bad host/x@y" .invalidHostCharacter) := by
    decide +kernel
  exact ⟨fronts, one, two, refused, hides.mp refused⟩

end ProxyCheck
