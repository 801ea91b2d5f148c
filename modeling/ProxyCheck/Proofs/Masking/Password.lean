import ProxyCheck.Proofs.Endpoint
import ProxyCheck.Proofs.Url.Scheme

/-! The mask of a password in a URL. Whatever URL has a password, the masked text is read as a URL of
the same place and user, and tells nothing else of the password. -/
namespace ProxyCheck

namespace Url

theorem setPassword?_mask (u : Url) (h : Host) (kind : SchemeKind.of u.scheme ≠ .file)
    (hosted : u.host = some h) (named : h.text ≠ "") :
    u.setPassword? mask = some (u.withPassword (String.ofList mask)) := by
  have place : u.hostText? = some h.text := by
    rw [hostText?, hosted, Option.map_some, Option.filter_some, if_pos (by simpa using named)]
  have other : u.scheme ≠ "file" := by
    intro same
    rw [same] at kind
    exact kind rfl
  rw [setPassword?, place, if_neg (by simpa using other)]
  rfl

def masked (u : Url) : List Char :=
  dropTrailing (· == '/') (u.withPassword (String.ofList mask)).text.toList

theorem masked_congr (u : Url) (password : String) : (u.withPassword password).masked = u.masked := rfl

theorem encoded_mask (username : String) (password : Option String)
    (encoded : Encoded username password) : Encoded username (some (String.ofList mask)) := by
  refine ⟨encoded.username, ?_⟩
  intro p same
  cases same
  exact ⟨by decide, of_mem (Percent.keeps Percent.userinfo ·) _ (by decide)⟩

theorem masked_eq (u : Url) (h : Host) (hosted : u.host = some h)
    (encoded : Encoded u.username (some (String.ofList mask)))
    (legal : h.Legal (SchemeKind.of u.scheme).isSpecial) :
    u.masked = u.scheme.toList ++ ':' :: '/' :: '/' ::
      ((credentials u.username (some (String.ofList mask)) ++ h.text ++ portText u.port).toList ++
        dropTrailing (· == '/') u.tail) := by
  have place := mem_place _ _ _ h u.port encoded legal
  have text : (u.withPassword (String.ofList mask)).text.toList =
      u.scheme.toList ++ ':' :: '/' :: '/' ::
        ((credentials u.username (some (String.ofList mask)) ++ h.text ++ portText u.port).toList ++
          u.tail) := (u.withPassword (String.ofList mask)).toList_text h hosted
  have kept := dropTrailing_append_word (· == '/') (u.scheme.toList ++ "://".toList)
    (credentials u.username (some (String.ofList mask)) ++ h.text ++ portText u.port).toList u.tail
    (by simp [credentials]) fun c member => by
      rw [beq_eq_false_iff_ne]
      rintro rfl
      exact absurd (place '/' member).2 (by decide)
  rw [masked, text]
  simpa using kept

/-- A URL of the place and the user of another, with a mask for its password. -/
structure IsMaskOf (v u : Url) : Prop where
  scheme : v.scheme = u.scheme
  username : v.username = u.username
  host : v.host = u.host
  port : v.portOrDefault? = u.portOrDefault?
  password : v.password = some "***"

theorem ofChars_masked (cs : List Char) (u : Url) (read : ofChars cs = .ok u)
    (secret : u.password.isSome) (stable : ∀ h, u.host = some h → h.Stable) :
    ∃ v, ofChars u.masked = .ok v ∧ v.IsMaskOf u := by
  obtain ⟨kind, h, hosted, named⟩ := host_of_password cs u read secret
  obtain ⟨spelled, -⟩ := splitScheme_of_ofChars cs u read
  obtain ⟨encoded, legal, port⟩ := authority_of_ofChars cs u h read kind hosted
  obtain ⟨-, a, rest, -, whole⟩ := of_ofChars cs u read kind fun _ => by simp [hosted]
  obtain ⟨visible, ends⟩ := tail_finish u.scheme (SchemeKind.of u.scheme).isSpecial a rest
  rw [← whole] at visible ends
  have hidden := encoded_mask u.username u.password encoded
  have again := ofChars_text u.scheme u.username (some (String.ofList mask)) h u.port
    (dropTrailing (· == '/') u.tail) spelled kind hidden legal named
    (fun c member => visible c (mem_of_mem_dropTrailing _ _ c member))
    (head?_dropTrailing _ _ _ ends)
  rw [h.readHost_text _ legal (stable h hosted)] at again
  have same : (if u.port = defaultPort? u.scheme then none else u.port) = u.port := by
    rcases port with none | other
    · rw [none, ite_self]
    · exact if_neg other
  rw [same] at again
  refine ⟨_, by rw [u.masked_eq h hosted hidden legal, again]; rfl, ?_⟩
  constructor
  case scheme => rfl
  case username => rfl
  case host => exact hosted.symm
  case port => rfl
  case password => rfl

end Url

theorem maskPassword_of_password (address : String) (u : Url) (read : Url.parse address = .ok u)
    (secret : u.password.isSome) :
    u.setPassword? mask = some (u.withPassword (String.ofList mask)) ∧
      maskPassword address = String.ofList u.masked := by
  obtain ⟨kind, h, hosted, named⟩ := Url.host_of_password address.toList u read secret
  have set := u.setPassword?_mask h kind hosted named
  refine ⟨set, ?_⟩
  rw [maskPassword, read]
  simp only [secret, if_true, set]
  rfl

theorem maskPassword_of_none (address : String)
    (none : ∀ u, Url.parse address = .ok u → u.password = none) : maskPassword address = address := by
  rw [maskPassword]
  cases read : Url.parse address with
  | error cause => rfl
  | ok u =>
      simp only
      rw [none u read]
      rfl

/-- The mask of a URL takes the place of its password and of nothing else: the password can be set,
and what is shown is read as a URL of the same place and user, and is the same for every password. A
text that is no URL, or has no password, is shown as it is. -/
theorem maskPassword_exact (address : String) :
    ((∀ u, Url.parse address = .ok u → u.password = none) → maskPassword address = address) ∧
      ∀ u, Url.parse address = .ok u → u.password.isSome →
        (∃ v, u.setPassword? mask = some v ∧
          maskPassword address = String.ofList (dropTrailing (· == '/') v.text.toList)) ∧
        ((∀ h, u.host = some h → h.Stable) →
          ∃ v, Url.parse (maskPassword address) = .ok v ∧ v.IsMaskOf u) ∧
        ∀ other password, Url.parse other = .ok (u.withPassword password) →
          maskPassword other = maskPassword address := by
  refine ⟨maskPassword_of_none address, ?_⟩
  intro u read secret
  obtain ⟨set, shown⟩ := maskPassword_of_password address u read secret
  refine ⟨⟨_, set, shown⟩, ?_, ?_⟩
  · intro stable
    obtain ⟨v, again, mask⟩ := Url.ofChars_masked address.toList u read secret stable
    refine ⟨v, ?_, mask⟩
    rw [shown, Url.parse, String.toList_ofList]
    exact again
  · intro other password readOther
    obtain ⟨-, shownOther⟩ := maskPassword_of_password other _ readOther rfl
    rw [shown, shownOther, u.masked_congr]

def slashedUrl (password : String) : Url :=
  ⟨"https", "", some password, some (.domain "proxy.lan"), none, .segments ["a", "", ""], some "q/", none⟩

theorem maskPassword_exact_slashed :
    Url.parse "https://:one@Proxy.lan/a//?q/" = .ok (slashedUrl "one") ∧
      Url.parse "https://:two@Proxy.lan/a//?q/" = .ok (slashedUrl "two") ∧
      (∀ h, (slashedUrl "one").host = some h → h.Stable) ∧
      maskPassword "https://:one@Proxy.lan/a//?q/" = "https://:***@proxy.lan/a//?q" ∧
      (∃ v, Url.parse (maskPassword "https://:one@Proxy.lan/a//?q/") = .ok v ∧
        v.IsMaskOf (slashedUrl "one")) ∧
      maskPassword "https://:two@Proxy.lan/a//?q/" = maskPassword "https://:one@Proxy.lan/a//?q/" ∧
      maskPassword "socks5://h/" = "socks5://h/" := by
  have one : Url.parse "https://:one@Proxy.lan/a//?q/" = .ok (slashedUrl "one") :=
    eq_ok_of_toOption _ _ (by decide +kernel)
  have two : Url.parse "https://:two@Proxy.lan/a//?q/" = .ok (slashedUrl "two") :=
    eq_ok_of_toOption _ _ (by decide +kernel)
  have plain : ∀ u, Url.parse "socks5://h/" = .ok u → u.password = none := by
    have read : (Url.parse "socks5://h/").toOption.map Url.password = some none := by decide +kernel
    intro u same
    rw [same] at read
    exact Option.some.inj read
  have stable : ∀ h, (slashedUrl "one").host = some h → h.Stable := by
    have ascii : Domain.toAscii "proxy.lan".toList = some "proxy.lan".toList := by decide +kernel
    intro h hosted
    cases hosted
    exact ascii
  obtain ⟨⟨v, set, shown⟩, again, agrees⟩ :=
    (maskPassword_exact "https://:one@Proxy.lan/a//?q/").2 (slashedUrl "one") one rfl
  refine ⟨one, two, stable, ?_, again stable, agrees _ "two" two,
    (maskPassword_exact "socks5://h/").1 plain⟩
  rw [shown]
  cases set
  decide +kernel

end ProxyCheck
