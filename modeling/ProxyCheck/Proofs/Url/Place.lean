import ProxyCheck.Proofs.Url.Scheme

/-! What the place of a URL, its scheme and its host, is read from: neither the password before it nor
what follows its authority has a part in it. -/
namespace ProxyCheck.Url

theorem mem_dropWhile (p : Char → Bool) (cs : List Char) (c : Char) (member : c ∈ cs)
    (stop : p c = false) : c ∈ cs.dropWhile p := by
  rw [← List.takeWhile_append_dropWhile (p := p) (l := cs)] at member
  rcases List.mem_append.mp member with early | late
  · rw [List.mem_takeWhile_imp early] at stop
    cases stop
  · exact late

theorem readPort_append (scheme : String) (front back : List Char) (c : Char) (member : c ∈ front)
    (ends : endsAuthority true c) :
    (readPort scheme (front ++ back)).map Prod.fst = (readPort scheme front).map Prod.fst := by
  have stop := digit_of_endsAuthority c ends
  obtain ⟨take, drop⟩ := span_append_of_mem Char.isDigit front back c member stop
  have head : (front.dropWhile Char.isDigit ++ back).head? = (front.dropWhile Char.isDigit).head? :=
    List.head?_append_of_ne_nil _ (List.ne_nil_of_mem (mem_dropWhile _ front c member stop))
  rw [readPort, readPort, take, drop, head]
  simp only
  split <;> rfl

theorem readOptionalPort_append (scheme : String) (front back : List Char) (c : Char)
    (member : c ∈ front) (ends : endsAuthority true c) :
    (readOptionalPort scheme (front ++ back)).map Prod.fst =
      (readOptionalPort scheme front).map Prod.fst := by
  cases front with
  | nil => cases member
  | cons d front =>
      by_cases colon : d = ':'
      · have later : c ∈ front := by
          rcases List.mem_cons.mp member with same | later
          · rw [same, colon] at ends
            exact absurd ends (by decide)
          · exact later
        rw [colon]
        exact readPort_append scheme front back c later ends
      · rw [List.cons_append, readOptionalPort.eq_def, readOptionalPort.eq_def]
        split <;> split <;> simp_all [Except.map]

def readPlace (scheme : String) (special nameless : Bool) (place tail : List Char) :
    Except UrlError Host := do
  let (name, rest) := splitHost false place
  let host ← readHost special name
  if name = [] ∧ rest ≠ [] then
    throw .emptyHost
  let _ ← (readOptionalPort scheme (rest ++ tail)).map Prod.fst
  if name = [] ∧ ¬nameless then
    throw .emptyHost
  return host

theorem readPlace_append (scheme : String) (special nameless : Bool) (place front back : List Char)
    (c : Char) (member : c ∈ front) (ends : endsAuthority true c) :
    readPlace scheme special nameless place (front ++ back) =
      readPlace scheme special nameless place front := by
  rw [readPlace, readPlace]
  simp only [← List.append_assoc]
  rw [readOptionalPort_append scheme _ back c (List.mem_append_right _ member) ends]

theorem host_readAuthority (scheme : String) (special : Bool) (cs : List Char) :
    (readAuthority scheme special cs).map (fun p => p.1.host) =
      let authority := cs.takeWhile fun c => !endsAuthority special c
      let tail := cs.dropWhile fun c => !endsAuthority special c
      let split := splitLastAt authority
      if split = some ([], []) ∧ tail ≠ [] then .error .emptyHost
      else
        let parts := split.getD ([], authority)
        let credentials := readUserinfo parts.1
        readPlace scheme special (credentials.1 = "" ∧ credentials.2 = none) parts.2 tail := by
  rw [readAuthority]
  simp only [bind, Except.bind, throw, throwThe, MonadExceptOf.throw, pure, Except.pure, readPlace]
  split
  · rfl
  · generalize (splitLastAt (cs.takeWhile fun c => !endsAuthority special c)).getD
      ([], cs.takeWhile fun c => !endsAuthority special c) = parts
    cases found : readHost special (splitHost false parts.2).1 with
    | error cause => rfl
    | ok host =>
        simp only
        split
        · rfl
        · cases ported : readOptionalPort scheme ((splitHost false parts.2).2 ++
              cs.dropWhile fun c => !endsAuthority special c) with
          | error cause => rfl
          | ok port =>
              simp only [Except.map, decide_eq_true_eq]
              by_cases late : (splitHost false parts.2).1 = [] ∧
                  ¬((readUserinfo parts.1).1 = "" ∧ (readUserinfo parts.1).2 = none)
              · rw [if_pos late, if_pos late]
              · rw [if_neg late, if_neg late]

theorem splitLastAt_append_at (back : List Char) :
    ∃ more place, ∀ front, splitLastAt (front ++ '@' :: back) = some (front ++ more, place) := by
  cases split : splitLastAt back with
  | none =>
      refine ⟨[], back, ?_⟩
      intro front
      rw [splitLastAt_append front back (of_splitLastAt_none back split), List.append_nil]
  | some parts =>
      obtain ⟨whole, last⟩ := of_splitLastAt back parts.1 parts.2 split
      refine ⟨'@' :: parts.1, parts.2, ?_⟩
      intro front
      have nested : front ++ '@' :: back = (front ++ '@' :: parts.1) ++ '@' :: parts.2 := by
        rw [whole]
        simp
      rw [nested, splitLastAt_append _ parts.2 last]

/-- A text that may stand as a password: nothing in it ends an authority, or is cleaned away. -/
structure Inner (secret : List Char) : Prop where
  nonempty : secret ≠ []
  inside : ∀ c ∈ secret, endsAuthority true c = false
  kept : ∀ c ∈ secret, isKept c

theorem host_readAuthority_append (scheme : String) (special : Bool) (front back : List Char) (c : Char)
    (member : c ∈ front) (ends : endsAuthority special c) :
    (readAuthority scheme special (front ++ back)).map (fun p => p.1.host) =
      (readAuthority scheme special front).map (fun p => p.1.host) := by
  have stop : (!endsAuthority special c) = false := by simp [ends]
  obtain ⟨take, drop⟩ := span_append_of_mem (fun c => !endsAuthority special c) front back c member stop
  have kept := mem_dropWhile (fun c => !endsAuthority special c) front c member stop
  rw [host_readAuthority, host_readAuthority]
  simp only [take, drop]
  rw [readPlace_append scheme special _ _ _ back c kept (endsAuthority_le special c ends)]
  simp [List.ne_nil_of_mem kept]

theorem span_password (special : Bool) (user secret back : List Char) (inner : Inner secret)
    (named : ∀ c ∈ user, endsAuthority special c = false) :
    ((user ++ ':' :: (secret ++ '@' :: back)).takeWhile fun c => !endsAuthority special c) =
        (user ++ ':' :: secret) ++ '@' :: back.takeWhile (fun c => !endsAuthority special c) ∧
      ((user ++ ':' :: (secret ++ '@' :: back)).dropWhile fun c => !endsAuthority special c) =
        back.dropWhile fun c => !endsAuthority special c := by
  have within : ∀ c ∈ user ++ ':' :: (secret ++ ['@']), !endsAuthority special c := by
    intro c member
    simp only [List.mem_append, List.mem_cons, List.not_mem_nil, or_false] at member
    rw [Bool.not_eq_true']
    rcases member with user | rfl | secret | rfl
    · exact named c user
    · cases special <;> rfl
    · apply Bool.eq_false_iff.mpr
      intro stop
      exact Bool.eq_false_iff.mp (inner.inside c secret) (endsAuthority_le special c stop)
    · cases special <;> rfl
  have whole : user ++ ':' :: (secret ++ '@' :: back) =
      (user ++ ':' :: (secret ++ ['@'])) ++ back := by simp
  constructor
  · rw [whole, List.takeWhile_append_of_pos within]
    simp
  · rw [whole, List.dropWhile_append_of_pos within]

theorem host_readAuthority_password (scheme : String) (special : Bool) (user back : List Char)
    (plain : ':' ∉ user) :
    ∃ result, ∀ secret, Inner secret →
      (readAuthority scheme special (user ++ ':' :: (secret ++ '@' :: back))).map (fun p => p.1.host) =
        result := by
  by_cases ends : ∃ c ∈ user, endsAuthority special c
  · obtain ⟨c, member, ends⟩ := ends
    exact ⟨_, fun secret _ => host_readAuthority_append scheme special user _ c member ends⟩
  · have named : ∀ c ∈ user, endsAuthority special c = false := by
      intro c member
      apply Bool.eq_false_iff.mpr
      intro stop
      exact ends ⟨c, member, stop⟩
    -- The last at sign stands in what follows the password, or is the one right after it.
    obtain ⟨more, place, split⟩ := splitLastAt_append_at (back.takeWhile fun c => !endsAuthority special c)
    refine ⟨readPlace scheme special false place (back.dropWhile fun c => !endsAuthority special c), ?_⟩
    intro secret inner
    obtain ⟨take, drop⟩ := span_password special user secret back inner named
    have some : secret ++ more ≠ [] := List.append_ne_nil_of_left_ne_nil inner.nonempty _
    have credentials := readUserinfo_append user (secret ++ more) plain some
    rw [host_readAuthority]
    simp only [take, drop, split, Option.getD_some]
    rw [List.append_assoc, List.cons_append, credentials]
    simp

theorem authorityOf_append (special : Bool) (front cs : List Char)
    (inside : ∀ c ∈ front, !endsAuthority special c) :
    authorityOf special (front ++ cs) = front ++ authorityOf special cs :=
  List.takeWhile_append_of_pos inside

theorem writtenPlace_of_absent (special : Bool) (cs : List Char)
    (absent : '@' ∉ authorityOf special cs) : writtenPlace special cs = authorityOf special cs := by
  rw [writtenPlace, splitLastAt_none _ absent]
  rfl

theorem writtenPlace_append (special : Bool) (front cs : List Char)
    (inside : ∀ c ∈ front, !endsAuthority special c)
    (at_ : '@' ∈ authorityOf special cs) :
    writtenPlace special (front ++ cs) = writtenPlace special cs := by
  rw [writtenPlace, writtenPlace, authorityOf_append special front cs inside]
  cases split : splitLastAt (authorityOf special cs) with
  | none => exact absurd at_ (of_splitLastAt_none _ split)
  | some parts =>
      obtain ⟨whole, last⟩ := of_splitLastAt _ parts.1 parts.2 split
      rw [whole, ← List.append_assoc, splitLastAt_append _ parts.2 last]
      rfl

theorem place_readAuthority_append (scheme : String) (special : Bool) (front cs rest rest' : List Char)
    (a b : Authority) (inside : ∀ c ∈ front, !endsAuthority special c)
    (at_ : '@' ∈ authorityOf special cs)
    (readA : readAuthority scheme special cs = .ok (a, rest))
    (readB : readAuthority scheme special (front ++ cs) = .ok (b, rest')) :
    b.host = a.host ∧ b.port = a.port := by
  obtain ⟨-, hostA, portA, -⟩ := place_of_readAuthority scheme special cs rest a readA
  obtain ⟨-, hostB, portB, -⟩ := place_of_readAuthority scheme special (front ++ cs) rest' b readB
  rw [writtenPlace_append special front cs inside at_] at hostB portB
  rw [List.dropWhile_append_of_pos inside, portA] at portB
  rw [hostA] at hostB
  exact ⟨(Except.ok.inj hostB).symm, (congrArg Prod.fst (Except.ok.inj portB)).symm⟩

theorem digits_of_readPort (scheme : String) (place tail rest : List Char) (port : Option UInt16)
    (inside : ∀ c ∈ place, endsAuthority true c = false) (ends : tail.head?.all (endsAuthority true))
    (read : readPort scheme (place ++ tail) = .ok (port, rest)) :
    (∀ c ∈ place, c.isDigit) ∧ (place = [] → port = none) := by
  rw [readPort] at read
  simp only at read
  split at read
  · cases read
  · rename_i allowed
    constructor
    · by_contra other
      push Not at other
      obtain ⟨c, member, stop⟩ := other
      have plain : c.isDigit = false := by simpa using stop
      have drop := (span_append_of_mem Char.isDigit place tail c member plain).2
      have left := mem_dropWhile Char.isDigit place c member plain
      obtain ⟨d, more, same⟩ := List.exists_cons_of_ne_nil (List.ne_nil_of_mem left)
      have first : d ∈ place := (List.dropWhile_sublist _).subset (same ▸ List.mem_cons_self)
      rw [drop, same] at allowed
      simp [inside d first] at allowed
    · intro empty
      have none : tail.takeWhile Char.isDigit = [] := by
        cases tail with
        | nil => rfl
        | cons c tail =>
            have stop := digit_of_endsAuthority c (by simpa using ends)
            exact List.takeWhile_cons_of_neg (by simp [stop])
      rw [empty, List.nil_append, none] at read
      cases read
      exact ite_self _

def site (u : Url) : String × Option Host :=
  (u.scheme, u.host)

theorem site_readWithAuthority (scheme : String) (special : Bool) (cs : List Char) :
    (readWithAuthority scheme special cs).map site =
      ((readAuthority scheme special cs).map fun p => p.1.host).map fun host => (scheme, some host) := by
  rw [readWithAuthority]
  cases readAuthority scheme special cs <;> rfl

structure Schemed (raw : List Char) : Prop where
  letter : raw.head?.any Char.isAlpha
  plain : ∀ c ∈ raw, isSchemeChar c

/-- Cleaning a text leaves its scheme and its password as they are. -/
theorem clean_password (scheme user back : List Char) (schemed : Schemed scheme) :
    ∃ left right, (':' ∉ user → ':' ∉ left) ∧ ∀ secret, Inner secret →
      clean (scheme ++ ':' :: '/' :: '/' :: (user ++ ':' :: (secret ++ '@' :: back))) =
        scheme ++ ':' :: '/' :: '/' :: (left ++ ':' :: (secret ++ '@' :: right)) := by
  refine ⟨user.filter isKept, (dropTrailing isLow back).filter isKept,
    fun plain member => plain (List.mem_of_mem_filter member), ?_⟩
  intro secret inner
  have visible : ∀ c ∈ scheme, isLow c = false ∧ isKept c := by
    intro c member
    exact of_isVisible c (of_isSchemeChar c (schemed.plain c member)).1
  have start : (scheme ++ ':' :: '/' :: '/' :: user).dropWhile isLow =
      scheme ++ ':' :: '/' :: '/' :: user := by
    have letter := schemed.letter
    cases scheme with
    | nil => cases letter
    | cons c scheme =>
        rw [List.cons_append, List.dropWhile_cons_of_neg]
        simp [(visible c List.mem_cons_self).1]
  have trimmed := trimBoth_between isLow (scheme ++ ':' :: '/' :: '/' :: user) secret back ':' '@' rfl rfl
  have schemeKept : scheme.filter isKept = scheme :=
    List.filter_eq_self.mpr fun c member => (visible c member).2
  have secretKept : secret.filter isKept = secret := List.filter_eq_self.mpr inner.kept
  have signs : isKept ':' ∧ isKept '/' ∧ isKept '@' := by decide
  calc clean (scheme ++ ':' :: '/' :: '/' :: (user ++ ':' :: (secret ++ '@' :: back)))
      = (trimBoth isLow
          ((scheme ++ ':' :: '/' :: '/' :: user) ++ ':' :: (secret ++ '@' :: back))).filter isKept := by
        rw [clean_eq]
        simp
    _ = (scheme ++ ':' :: '/' :: '/' :: user ++
          ':' :: (secret ++ '@' :: dropTrailing isLow back)).filter isKept := by
        rw [trimmed, start]
    _ = _ := by
        simp [List.filter_append, schemeKept, secretKept, signs]

/-- Neither the scheme nor the host of a text depends on its password, nor does the reason for which
it is no URL. -/
theorem site_ofChars_password (scheme user back : List Char) (schemed : Schemed scheme)
    (other : String.ofList (scheme.map Char.toLower) ≠ "file") (plain : ':' ∉ user) :
    ∃ result, ∀ secret, Inner secret →
      (ofChars (scheme ++ ':' :: '/' :: '/' :: (user ++ ':' :: (secret ++ '@' :: back)))).map site =
        result := by
  obtain ⟨left, right, plainLeft, cleaned⟩ := clean_password scheme user back schemed
  have read (secret : List Char) := splitScheme_append scheme
    ('/' :: '/' :: (left ++ ':' :: (secret ++ '@' :: right))) schemed.letter schemed.plain
  generalize String.ofList (scheme.map Char.toLower) = name at other read
  cases kind : SchemeKind.of name with
  | file => exact absurd (eq_file_of_kind _ kind) other
  | special =>
      have absent : ':' ∉ left.dropWhile (isSlash true) := fun member =>
        plainLeft plain ((List.dropWhile_sublist _).subset member)
      obtain ⟨result, hides⟩ := host_readAuthority_password name true _ right absent
      refine ⟨result.map fun host => (name, some host), ?_⟩
      intro secret inner
      have slashes := dropWhile_append_cons (isSlash true) left (secret ++ '@' :: right) ':' rfl
      have slash : isSlash true '/' := rfl
      rw [ofChars, cleaned secret inner, read]
      simp only [kind]
      rw [List.dropWhile_cons_of_pos slash, List.dropWhile_cons_of_pos slash, slashes,
        site_readWithAuthority, hides secret inner]
  | other =>
      obtain ⟨result, hides⟩ :=
        host_readAuthority_password name false left right (plainLeft plain)
      refine ⟨result.map fun host => (name, some host), ?_⟩
      intro secret inner
      rw [ofChars, cleaned secret inner, read]
      simp only [kind]
      rw [site_readWithAuthority, hides secret inner]

end ProxyCheck.Url
