import ProxyCheck.Proofs.Endpoint

/-! What becomes of the credentials of a proxy's address in its full form: the user name is kept, and
with it the password; a password that stands alone is not. -/
namespace ProxyCheck

namespace Endpoint

theorem parse_text_iff (e : Endpoint) (h : Host) (sound : e.Sound h) (v : Url) :
    Url.parse e.text = .ok v ↔
      ∃ read, Url.readHost (SchemeKind.of e.scheme).isSpecial h.text.toList = .ok read ∧
        e.written read = v := by
  rw [Url.parse, e.ofChars_text h sound]
  cases Url.readHost (SchemeKind.of e.scheme).isSpecial h.text.toList with
  | error cause => simp [Except.map]
  | ok read => simp [Except.map]

theorem password_ofUrl_eq_iff (u : Url) (host : String) :
    (ofUrl u host).password = u.password ↔ (u.username = "" → u.password = none) := by
  by_cases empty : u.username = ""
  · have dropped : (ofUrl u host).password = none := by
      simp [ofUrl, empty]
    rw [dropped]
    exact ⟨fun same _ => same.symm, fun none => (none empty).symm⟩
  · have kept : (ofUrl u host).password = u.password := by
      simp [ofUrl, empty]
    exact iff_of_true kept fun named => absurd named empty

end Endpoint

/-- The full form of an address has the credentials of the address exactly if there is a user name or
no password, and the host can be read again. The user name is the same in any case, and so is a
password that stands beside one. -/
theorem credentials_kept_iff (address text : String) (normalized : normalizeProxy address = .ok text) :
    ∃ u h, Endpoint.candidateUrl address = .ok u ∧ u.host = some h ∧
      ((∃ v, Url.parse text = .ok v ∧ v.username = u.username ∧ v.password = u.password) ↔
        h.Readable ∧ (u.username = "" → u.password = none)) ∧
      ∀ v, Url.parse text = .ok v →
        v.username = u.username ∧ (u.username ≠ "" → v.password = u.password) := by
  obtain ⟨u, h, candidate, hosted, sound, rfl⟩ := of_normalizeProxy address text normalized
  have read := Endpoint.parse_text_iff _ h sound
  have password := Endpoint.password_ofUrl_eq_iff u h.text
  refine ⟨u, h, candidate, hosted, ?_, ?_⟩
  · rw [h.readable_iff _ sound.legal]
    constructor
    · rintro ⟨v, parsed, -, same⟩
      obtain ⟨found, readable, rfl⟩ := (read v).mp parsed
      exact ⟨⟨found, readable⟩, password.mp same⟩
    · rintro ⟨⟨found, readable⟩, kept⟩
      exact ⟨_, (read _).mpr ⟨found, readable, rfl⟩, rfl, password.mpr kept⟩
  · intro v parsed
    obtain ⟨found, -, rfl⟩ := (read v).mp parsed
    exact ⟨rfl, fun named => password.mpr fun empty => absurd empty named⟩

def secretUrl (username : String) : Url :=
  ⟨"socks5", username, some "s3cret", some (.opaqueName "h"), none, .segments [], none, none⟩

/-- Beside a user name a password is passed on; where the user name is empty it is not. -/
theorem credentials_kept_iff_nameless :
    normalizeProxy "socks5://al ice:s3cret@h" = .ok "socks5://al%20ice:s3cret@h:1080" ∧
      Endpoint.candidateUrl "socks5://al ice:s3cret@h" = .ok (secretUrl "al%20ice") ∧
      (∃ v, Url.parse "socks5://al%20ice:s3cret@h:1080" = .ok v ∧
        v.username = (secretUrl "al%20ice").username ∧ v.password = (secretUrl "al%20ice").password) ∧
      normalizeProxy "socks5://:s3cret@h" = .ok "socks5://h:1080" ∧
      Endpoint.candidateUrl "socks5://:s3cret@h" = .ok (secretUrl "") ∧
      ¬∃ v, Url.parse "socks5://h:1080" = .ok v ∧
        v.username = (secretUrl "").username ∧ v.password = (secretUrl "").password := by
  have named : normalizeProxy "socks5://al ice:s3cret@h" = .ok "socks5://al%20ice:s3cret@h:1080" := by
    decide +kernel
  have namedUrl : Endpoint.candidateUrl "socks5://al ice:s3cret@h" = .ok (secretUrl "al%20ice") := by
    decide +kernel
  have nameless : normalizeProxy "socks5://:s3cret@h" = .ok "socks5://h:1080" := by
    decide +kernel
  have namelessUrl : Endpoint.candidateUrl "socks5://:s3cret@h" = .ok (secretUrl "") := by
    decide +kernel
  refine ⟨named, namedUrl, ?_, nameless, namelessUrl, ?_⟩
  · obtain ⟨u, h, read, hosted, kept, -⟩ := credentials_kept_iff _ _ named
    cases namedUrl.symm.trans read
    cases hosted
    exact kept.mpr ⟨trivial, fun empty => absurd empty (by decide)⟩
  · obtain ⟨u, h, read, hosted, kept, -⟩ := credentials_kept_iff _ _ nameless
    cases namelessUrl.symm.trans read
    intro same
    exact absurd ((kept.mp same).2 rfl) (by decide)

end ProxyCheck
