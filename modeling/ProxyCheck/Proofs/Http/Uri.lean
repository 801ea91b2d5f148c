import ProxyCheck.Http.Uri
import ProxyCheck.Proofs.Endpoint

/-! Which URLs are addresses for a client. Whatever stands in a URL has been put right, but for its
host: an address has fewer characters to make one of. -/
namespace ProxyCheck

/-- A host that an address may have: one in brackets, or one of characters that mean nothing in an
authority. -/
def Host.fits : Host → Bool
  | .ipv6 _ => true
  | h => h.text.toList.all Uri.isNameChar

theorem Host.unsigned_text (special : Bool) (h : Host) (legal : h.Legal special)
    (bare : ∀ a, h ≠ .ipv6 a) : ∀ c ∈ h.text.toList, c ≠ ':' ∧ c ≠ '[' ∧ c ≠ ']' := by
  intro c member
  cases legal with
  | domain name nonempty letters unlike =>
      rw [text, String.toList_ofList] at member
      exact (Domain.of_isNameChar c (letters c member)).2.2
  | ipv4 a =>
      rcases a.mem_text c member with digit | rfl
      · exact (of_isDigit c digit).2
      · decide
  | ipv6 _ a => exact absurd rfl (bare a)
  | opaqueName name allowed =>
      rw [text, String.toList_ofList] at member
      obtain ⟨kept, allowed⟩ := mem_opaque name allowed c member
      exact (of_isForbidden c kept allowed).2

namespace Uri

open Url (Encoded credentials portText span_stop of_bind)

theorem surveyChar_name (s : Survey) (c : Char) (name : isNameChar c) : surveyChar s c = .ok s := by
  rw [surveyChar.eq_def]
  split
  · exact absurd name (by decide)
  · exact absurd name (by decide)
  · exact absurd name (by decide)
  · exact absurd name (by decide)
  · exact absurd name (by decide)
  · exact if_pos name

/-- Names and colons leave a count of the colons, as long as there are not too many of them. -/
theorem survey_colons (cs : List Char) (s : Survey) (all : ∀ c ∈ cs, isNameChar c ∨ c = ':')
    (room : s.colons + cs.count ':' ≤ colonLimit) :
    cs.foldlM surveyChar s = .ok { s with colons := s.colons + cs.count ':' } := by
  induction cs generalizing s with
  | nil => rfl
  | cons c rest ih =>
      have later : ∀ d ∈ rest, isNameChar d ∨ d = ':' := fun d member =>
        all d (List.mem_cons_of_mem _ member)
      rw [List.foldlM_cons]
      rcases all c List.mem_cons_self with name | rfl
      · have other : c ≠ ':' := by
          rintro rfl
          exact absurd name (by decide)
        rw [List.count_cons_of_ne other] at room ⊢
        rw [surveyChar_name s c name]
        exact ih s later room
      · rw [List.count_cons_self] at room ⊢
        have step : surveyChar s ':' = .ok { s with colons := s.colons + 1 } :=
          if_neg (by omega)
        rw [step]
        have rest := ih { s with colons := s.colons + 1 } later (by simp only; omega)
        simp only [Nat.add_assoc, Nat.add_comm 1] at rest
        exact rest

theorem name_of_isDigit (c : Char) (digit : c.isDigit) : isNameChar c := by
  rw [isNameChar, Char.isAlphanum, digit, Bool.or_true, Bool.true_or]

theorem name_of_isHex (c : Char) (hex : isHex c) : isNameChar c := by
  have visible := (of_isHostChar c (Host.of_isHex c hex).1).1
  simp only [isVisible, Bool.and_eq_true, decide_eq_true_eq] at visible
  have ascii : c.toNat < 0x80 := by omega
  exact of_ascii (fun c => isHex c → isNameChar c) (by decide) c ascii hex

theorem survey_names (cs : List Char) (s : Survey) (all : ∀ c ∈ cs, isNameChar c)
    (room : s.colons ≤ colonLimit) : cs.foldlM surveyChar s = .ok s := by
  have none : cs.count ':' = 0 := by
    rw [List.count_eq_zero]
    intro member
    exact absurd (all ':' member) (by decide)
  have read := survey_colons cs s (fun c member => .inl (all c member)) (by omega)
  rw [none] at read
  exact read

theorem of_keeps_userinfo (c : Char) (kept : Percent.keeps Percent.userinfo c) :
    isNameChar c ∨ c = '%' :=
  of_ascii (fun c => Percent.keeps Percent.userinfo c → isNameChar c ∨ c = '%') (by decide) c
    (Percent.ascii_of_keeps _ c kept) kept

theorem survey_userinfo (cs : List Char) (s : Survey)
    (kept : ∀ c ∈ cs, Percent.keeps Percent.userinfo c) :
    ∃ percent, cs.foldlM surveyChar s = .ok { s with percent } := by
  induction cs generalizing s with
  | nil => exact ⟨s.percent, rfl⟩
  | cons c rest ih =>
      have later : ∀ d ∈ rest, Percent.keeps Percent.userinfo d := fun d member =>
        kept d (List.mem_cons_of_mem _ member)
      rw [List.foldlM_cons]
      rcases of_keeps_userinfo c (kept c List.mem_cons_self) with name | rfl
      · rw [surveyChar_name s c name]
        exact ih s later
      · exact ih { s with percent := true } later

theorem survey_credentials (username : String) (password : Option String)
    (encoded : Encoded username password) :
    (credentials username password).toList.foldlM surveyChar {} = .ok {} := by
  obtain ⟨first, user⟩ := survey_userinfo username.toList {} encoded.username
  cases password with
  | some password =>
      obtain ⟨second, secret⟩ := survey_userinfo password.toList ⟨1, false, false, first⟩
        (encoded.password password rfl).2
      have text : (credentials username (some password)).toList =
          username.toList ++ ':' :: (password.toList ++ ['@']) := by
        simp [credentials]
      rw [text, List.foldlM_append, user]
      have colon : surveyChar ⟨0, false, false, first⟩ ':' = .ok ⟨1, false, false, first⟩ := rfl
      change List.foldlM surveyChar ⟨0, false, false, first⟩ _ = _
      rw [List.foldlM_cons, colon]
      change List.foldlM surveyChar ⟨1, false, false, first⟩ _ = _
      rw [List.foldlM_append, secret]
      rfl
  | none =>
      rw [credentials]
      split
      · rfl
      · rw [String.toList_append, List.foldlM_append, user]
        rfl

theorem percent_survey (cs : List Char) (s found : Survey)
    (open_ : ∀ c ∈ cs, c ≠ '@' ∧ c ≠ '[' ∧ c ≠ ']')
    (unfit : s.percent ∨ ∃ c ∈ cs, c ≠ ':' ∧ isNameChar c = false)
    (read : cs.foldlM surveyChar s = .ok found) : found.percent := by
  induction cs generalizing s with
  | nil =>
      cases read
      simpa using unfit
  | cons c rest ih =>
      rw [List.foldlM_cons] at read
      obtain ⟨next, step, read⟩ := of_bind _ _ found read
      refine ih next (fun d member => open_ d (List.mem_cons_of_mem _ member)) ?_ read
      obtain ⟨at_, opening, closing⟩ := open_ c List.mem_cons_self
      by_cases sign : c = '%'
      · rw [sign] at step
        cases step
        exact .inl rfl
      · by_cases colon : c = ':'
        · rw [colon] at step unfit
          rw [surveyChar.eq_def] at step
          simp only at step
          split at step
          · cases step
          · cases step
            simpa using unfit
        · by_cases name : isNameChar c
          · rw [surveyChar_name s c name] at step
            cases step
            simpa [name] using unfit
          · rw [surveyChar.eq_def] at step
            split at step <;> simp_all

/-- A survey that finds neither an open bracket, nor a second colon, nor a sign of an encoding. -/
structure Survey.Clear (s : Survey) : Prop where
  brackets : s.opened = s.closed
  colons : s.colons ≤ 1
  plain : s.percent = false

theorem survey_host (special : Bool) (h : Host) (legal : h.Legal special) (fits : h.fits) :
    ∃ s : Survey, s.Clear ∧ s.colons = 0 ∧ h.text.toList.foldlM surveyChar {} = .ok s := by
  have named (names : ∀ c ∈ h.text.toList, isNameChar c) :
      ∃ s : Survey, s.Clear ∧ s.colons = 0 ∧ h.text.toList.foldlM surveyChar {} = .ok s :=
    ⟨{}, ⟨rfl, Nat.zero_le 1, rfl⟩, rfl, survey_names _ {} names (Nat.zero_le _)⟩
  cases h with
  | domain name => exact named (List.all_eq_true.mp fits)
  | ipv4 a => exact named (List.all_eq_true.mp fits)
  | opaqueName name => exact named (List.all_eq_true.mp fits)
  | ipv6 a =>
      have inside : ∀ c ∈ a.chars, isNameChar c ∨ c = ':' := by
        intro c member
        rcases a.mem_chars c member with hex | colon
        · exact .inl (name_of_isHex c hex)
        · exact .inr colon
      have few : 0 + a.chars.count ':' ≤ colonLimit := by
        rw [Nat.zero_add]
        exact a.count_chars
      have read := survey_colons a.chars { opened := true } inside few
      refine ⟨{ opened := true, closed := true }, ⟨rfl, Nat.zero_le 1, rfl⟩, rfl, ?_⟩
      rw [Host.toList_ipv6, List.foldlM_cons]
      change (a.chars ++ [']']).foldlM surveyChar { opened := true } = _
      rw [List.foldlM_append, read]
      rfl

theorem survey_port (written : Option UInt16) (s : Survey) (none : s.colons = 0) :
    ∃ colons ≤ 1, (portText written).toList.foldlM surveyChar s = .ok { s with colons } := by
  cases written with
  | none => exact ⟨s.colons, by omega, rfl⟩
  | some port =>
      have digits : ∀ c ∈ (toString port.toNat).toList, isNameChar c := fun c member =>
        name_of_isDigit c (isDigit_of_mem_toString _ c member)
      refine ⟨1, Nat.le_refl 1, ?_⟩
      rw [portText, String.toList_append]
      change (':' :: (toString port.toNat).toList).foldlM surveyChar s = _
      have colon : surveyChar s ':' = .ok { s with colons := 1 } := by
        rw [surveyChar, if_neg (by rw [none]; decide), none]
      rw [List.foldlM_cons, colon]
      exact survey_names _ { s with colons := 1 } digits (Nat.le_of_ble_eq_true rfl)

theorem survey_place (special : Bool) (username : String) (password : Option String) (h : Host)
    (written : Option UInt16) (encoded : Encoded username password) (legal : h.Legal special)
    (fits : h.fits) :
    ∃ s : Survey, s.Clear ∧
      (credentials username password ++ h.text ++ portText written).toList.foldlM surveyChar {} =
        .ok s := by
  obtain ⟨s, clear, none, host⟩ := survey_host special h legal fits
  obtain ⟨colons, few, port⟩ := survey_port written s none
  refine ⟨{ s with colons }, ⟨clear.brackets, few, clear.plain⟩, ?_⟩
  rw [String.toList_append, String.toList_append, List.foldlM_append, List.foldlM_append,
    survey_credentials username password encoded]
  change (h.text.toList.foldlM surveyChar {} >>= fun s => _) = _
  rw [host]
  exact port

theorem unbracketed_portText (written : Option UInt16) :
    ∀ c ∈ (portText written).toList, c ≠ '@' ∧ c ≠ '[' ∧ c ≠ ']' := by
  intro c member
  cases written with
  | none => cases member
  | some port =>
      rw [portText, String.toList_append, List.mem_append] at member
      rcases member with colon | digit
      · exact of_mem (fun c => c ≠ '@' ∧ c ≠ '[' ∧ c ≠ ']') ":".toList (by decide) c colon
      · obtain ⟨host, -, brackets⟩ := Host.of_isDigit c (isDigit_of_mem_toString _ c digit)
        exact ⟨(of_isHostChar c host).2.1, brackets⟩

theorem survey_unfit (special : Bool) (username : String) (password : Option String) (h : Host)
    (written : Option UInt16) (s : Survey) (encoded : Encoded username password)
    (legal : h.Legal special) (unfit : h.fits = false)
    (read : (credentials username password ++ h.text ++ portText written).toList.foldlM surveyChar {} =
      .ok s) : s.percent := by
  have bare : ∀ a, h ≠ .ipv6 a := by
    rintro a rfl
    cases unfit
  have letters : ∃ c ∈ h.text.toList, c ≠ ':' ∧ isNameChar c = false := by
    have some : h.text.toList.all isNameChar = false := by
      cases h with
      | ipv6 a => cases unfit
      | domain name => exact unfit
      | ipv4 a => exact unfit
      | opaqueName name => exact unfit
    obtain ⟨c, member, other⟩ := List.all_eq_false.mp some
    exact ⟨c, member, (h.unsigned_text special legal bare c member).1, by simpa using other⟩
  rw [String.toList_append, String.toList_append, List.foldlM_append, List.foldlM_append,
    survey_credentials username password encoded] at read
  obtain ⟨next, host, port⟩ := of_bind _ _ s read
  have sign : next.percent := by
    refine percent_survey h.text.toList {} next (fun c member => ?_) (.inr letters) host
    have place := (of_isHostChar c (h.mem_text special legal c member)).2.1
    exact ⟨place, (h.unsigned_text special legal bare c member).2⟩
  refine percent_survey _ next s (fun c member => ?_) (.inl sign) port
  exact unbracketed_portText written c member

theorem getLast?_place (special : Bool) (username : String) (password : Option String) (h : Host)
    (written : Option UInt16) (legal : h.Legal special) (named : h.text ≠ "") :
    (credentials username password ++ h.text ++ portText written).toList.getLast? ≠ some '@' := by
  have some : h.text.toList ++ (portText written).toList ≠ [] := by
    intro empty
    exact named (String.toList_inj.mp (List.append_eq_nil_iff.mp empty).1)
  rw [String.toList_append, String.toList_append, List.append_assoc,
    List.getLast?_append_of_ne_nil _ some]
  intro last
  rcases List.mem_append.mp (List.mem_of_getLast? last) with host | port
  · exact absurd (h.mem_text special legal '@' host) (by decide)
  · exact (unbracketed_portText written '@' port).1 rfl

theorem endsAuthority_le (c : Char) (inside : Url.endsAuthority true c = false) :
    endsAuthority c = false := by
  simp only [Url.endsAuthority, Url.isSlash, Url.endsPath, Bool.or_eq_false_iff] at inside
  rw [endsAuthority, inside.1.1, inside.2.1, inside.2.2]
  rfl

theorem splitAuthority_place (special : Bool) (username : String) (password : Option String)
    (h : Host) (written : Option UInt16) (tail : List Char) (encoded : Encoded username password)
    (legal : h.Legal special) (named : h.text ≠ "") (ends : tail.head?.all endsAuthority) :
    if h.fits then
      splitAuthority ((credentials username password ++ h.text ++ portText written).toList ++ tail) =
        .ok ((credentials username password ++ h.text ++ portText written).toList, tail)
    else ∃ cause, splitAuthority
      ((credentials username password ++ h.text ++ portText written).toList ++ tail) =
        .error cause := by
  have within : ∀ c ∈ (credentials username password ++ h.text ++ portText written).toList,
      !endsAuthority c := by
    intro c member
    rw [endsAuthority_le c (Url.mem_place special _ _ h _ encoded legal c member).2]
    rfl
  have stops : tail.head?.all fun c => !!endsAuthority c := by
    simpa only [Bool.not_not] using ends
  obtain ⟨take, drop⟩ := span_stop (fun c => !endsAuthority c) _ tail within stops
  have last := getLast?_place special username password h written legal named
  rw [splitAuthority, take, drop]
  split
  · rename_i fits
    obtain ⟨s, clear, read⟩ := survey_place special username password h written encoded legal fits
    have colons : decide (1 < s.colons) = false := decide_eq_false (Nat.not_lt.mpr clear.colons)
    rw [read]
    change (if _ then _ else _) = _
    rw [if_neg]
    · rfl
    · rw [clear.brackets, colons, clear.plain, decide_eq_false last]
      simp
  · rename_i unfit
    rw [Bool.not_eq_true] at unfit
    cases read : (credentials username password ++ h.text ++
        portText written).toList.foldlM surveyChar {} with
    | error cause => exact ⟨cause, rfl⟩
    | ok s =>
        have sign := survey_unfit special username password h written s encoded legal unfit read
        refine ⟨.invalidAuthority, ?_⟩
        simp [bind, Except.bind, throw, throwThe, MonadExceptOf.throw, sign]

theorem path_of_keeps (c : Char) (kept : Percent.keeps Percent.path c) :
    isPathChar c ∧ c ≠ '?' ∧ c ≠ '#' :=
  of_ascii (fun c => Percent.keeps Percent.path c → isPathChar c ∧ c ≠ '?' ∧ c ≠ '#') (by decide) c
    (Percent.ascii_of_keeps _ c kept) kept

theorem query_of_keeps (c : Char) (kept : Percent.keeps Percent.specialQuery c) :
    isQueryChar c ∧ c ≠ '#' :=
  of_ascii (fun c => Percent.keeps Percent.specialQuery c → isQueryChar c ∧ c ≠ '#') (by decide) c
    (Percent.ascii_of_keeps _ c kept) kept

theorem readPath_parts (scheme authority : Option (List Char)) (path : List Char)
    (query fragment : Option String) (proper : ∀ c ∈ path, isPathChar c ∧ c ≠ '?' ∧ c ≠ '#')
    (asked : ∀ q, query = some q → ∀ c ∈ q.toList, isQueryChar c ∧ c ≠ '#') :
    readPath scheme authority (path ++ ((query.elim "" ("?" ++ ·)).toList ++
        (fragment.elim "" ("#" ++ ·)).toList)) =
      .ok ⟨scheme, authority, if path.isEmpty then ['/'] else path, query.map String.toList⟩ := by
  have hash := Url.head?_mark "#" '#' rfl fragment
  have mark := Url.head?_mark "?" '?' rfl query
  have asked' : ∀ c ∈ (query.elim "" ("?" ++ ·)).toList, c ≠ '#' := by
    intro c member
    cases query with
    | none => cases member
    | some q =>
        rw [Option.elim_some, String.toList_append, List.mem_append] at member
        rcases member with sign | inside
        · exact of_mem (· ≠ '#') "?".toList (by decide) c sign
        · exact (asked q rfl c inside).2
  have shown : '#' ∉ path ++ (query.elim "" ("?" ++ ·)).toList := by
    intro member
    rcases List.mem_append.mp member with inside | inside
    · exact (proper '#' inside).2.2 rfl
    · exact asked' '#' inside rfl
  obtain ⟨take, -⟩ := Url.span_sign '#' _ _ shown hash
  obtain ⟨before, after⟩ := Url.span_sign '?' path (query.elim "" ("?" ++ ·)).toList
    (fun member => (proper '?' member).2.1 rfl) mark
  have fine : path.all isPathChar := List.all_eq_true.mpr fun c member => (proper c member).1
  rw [readPath, ← List.append_assoc, take, before, after]
  cases query with
  | none => simp [fine]
  | some q =>
      have text : ((some q).elim "" ("?" ++ ·)).toList = '?' :: q.toList := by simp
      have good : q.toList.all isQueryChar := List.all_eq_true.mpr fun c member =>
        (asked q rfl c member).1
      rw [text]
      simp [fine, good]

theorem spelled_of_mem (scheme : String) (known : scheme ∈ proxySchemes) :
    scheme.toList.head?.any Char.isAlpha ∧ scheme.toList.length ≤ schemeLimit ∧
      ∀ c ∈ scheme.toList, isSchemeChar c := by
  have all : ∀ s ∈ proxySchemes, s.toList.head?.any Char.isAlpha ∧
      s.toList.length ≤ schemeLimit ∧ s.toList.all isSchemeChar := by decide
  obtain ⟨letter, short, schemed⟩ := all scheme known
  exact ⟨letter, short, List.all_eq_true.mp schemed⟩

theorem ofChars_schemed (scheme cs : List Char) (letter : scheme.head?.any Char.isAlpha)
    (short : scheme.length ≤ schemeLimit) (schemed : ∀ c ∈ scheme, isSchemeChar c) :
    ofChars (scheme ++ ':' :: '/' :: '/' :: cs) = (splitAuthority cs >>= fun (authority, rest) =>
      if authority.isEmpty then .error .invalidFormat
      else readPath (some scheme) (some authority) rest) := by
  obtain ⟨take, drop⟩ := span_stop isSchemeChar scheme (':' :: '/' :: '/' :: cs) schemed rfl
  have split : splitScheme (scheme ++ ':' :: '/' :: '/' :: cs) = .ok (some scheme, cs) := by
    rw [splitScheme, take, drop]
    exact if_neg (Nat.not_lt.mpr short)
  obtain ⟨c, rest, rfl⟩ : ∃ c rest, scheme = c :: rest := by
    cases scheme with
    | nil => cases letter
    | cons c rest => exact ⟨c, rest, rfl⟩
  have other (sign : Char) (mark : sign.isAlpha = false) : c ≠ sign := by
    rintro rfl
    exact Bool.eq_false_iff.mp mark letter
  rw [List.cons_append] at split ⊢
  rw [ofChars.eq_def]
  split
  · rename_i same
    cases same
  · rename_i same
    exact absurd (List.cons.inj same).1 (other '*' rfl)
  · rename_i same
    exact absurd (List.cons.inj same).1 (other '/' rfl)
  · rename_i same
    exact absurd (List.cons.inj same).1 (other '?' rfl)
  · rename_i same
    exact absurd (List.cons.inj same).1 (other '#' rfl)
  · rw [split]
    rfl

/-- A URL with a scheme that there is and a path with nothing in it that the client would not have
is an address for the client if its host is. -/
theorem ofChars_url (scheme username : String) (password : Option String) (h : Host)
    (written : Option UInt16) (path : List Char) (query fragment : Option String)
    (known : scheme ∈ proxySchemes) (encoded : Encoded username password)
    (legal : h.Legal (SchemeKind.of scheme).isSpecial) (named : h.text ≠ "")
    (starts : (path ++ ((query.elim "" ("?" ++ ·)).toList ++
      (fragment.elim "" ("#" ++ ·)).toList)).head?.all endsAuthority)
    (proper : ∀ c ∈ path, isPathChar c ∧ c ≠ '?' ∧ c ≠ '#')
    (asked : ∀ q, query = some q → ∀ c ∈ q.toList, isQueryChar c ∧ c ≠ '#') :
    (∃ u, ofChars (scheme.toList ++ ':' :: '/' :: '/' ::
      ((credentials username password ++ h.text ++ portText written).toList ++
        (path ++ ((query.elim "" ("?" ++ ·)).toList ++
          (fragment.elim "" ("#" ++ ·)).toList)))) = .ok u) ↔ h.fits := by
  obtain ⟨letter, short, schemed⟩ := spelled_of_mem scheme known
  have authority := splitAuthority_place _ username password h written _ encoded legal named starts
  have parts := readPath_parts (some scheme.toList)
    (some (credentials username password ++ h.text ++ portText written).toList) path query fragment
    proper asked
  have nonempty : (credentials username password ++ h.text ++
      portText written).toList.isEmpty = false := by
    rw [List.isEmpty_eq_false_iff]
    intro empty
    simp only [String.toList_append, List.append_eq_nil_iff] at empty
    exact named (String.toList_inj.mp empty.1.2)
  rw [ofChars_schemed scheme.toList _ letter short schemed]
  split at authority
  · rename_i fits
    rw [authority]
    simp only [bind, Except.bind]
    rw [nonempty, if_neg Bool.false_ne_true, parts]
    exact ⟨fun _ => fits, fun _ => ⟨_, rfl⟩⟩
  · rename_i unfit
    obtain ⟨cause, failed⟩ := authority
    rw [failed]
    constructor
    · rintro ⟨u, read⟩
      cases read
    · exact fun fits => absurd fits unfit

end Uri

end ProxyCheck
