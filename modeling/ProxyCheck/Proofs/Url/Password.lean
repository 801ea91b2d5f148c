import ProxyCheck.Proofs.Url.Scheme

/-! Where the password of a web URL stands in its text, and what becomes of it when a word of the
text is put in the place of another. -/
namespace ProxyCheck.Url

theorem word_beside {α : Type} (sign : α) (front back before word after : List α)
    (absent : sign ∉ word) (same : front ++ sign :: back = before ++ (word ++ after)) :
    (∃ middle, front = before ++ (word ++ middle) ∧ after = middle ++ sign :: back) ∨
      ∃ middle, back = middle ++ (word ++ after) ∧ before = front ++ sign :: middle := by
  rcases List.append_eq_append_iff.mp same with ⟨middle, rfl, later⟩ | ⟨middle, rfl, later⟩
  · cases middle with
    | nil =>
        cases word with
        | nil => exact .inl ⟨[], by simp, by simpa using later.symm⟩
        | cons c word =>
            rw [List.nil_append, List.cons_append, List.cons.injEq] at later
            exact absurd (later.1 ▸ List.mem_cons_self) absent
    | cons c middle =>
        rw [List.cons_append, List.cons.injEq] at later
        obtain ⟨rfl, rfl⟩ := later
        exact .inr ⟨middle, rfl, rfl⟩
  · rcases List.append_eq_append_iff.mp later with ⟨gap, rfl, rfl⟩ | ⟨gap, rfl, meet⟩
    · exact .inl ⟨gap, rfl, rfl⟩
    · cases gap with
      | nil => exact .inl ⟨[], by simp, meet.symm⟩
      | cons c gap =>
          rw [List.cons_append, List.cons.injEq] at meet
          simp [meet.1] at absent

theorem word_after {α : Type} (front back before word after : List α) (nonempty : word ≠ [])
    (apart : ∀ c ∈ front, c ∉ word) (same : front ++ back = before ++ (word ++ after)) :
    ∃ gap, before = front ++ gap ∧ back = gap ++ (word ++ after) := by
  rcases List.append_eq_append_iff.mp same with ⟨gap, rfl, meet⟩ | ⟨gap, rfl, meet⟩
  · exact ⟨gap, rfl, meet⟩
  · cases gap with
    | nil => exact ⟨[], by simp, meet.symm⟩
    | cons c gap =>
        obtain ⟨d, rest, rfl⟩ := List.exists_cons_of_ne_nil nonempty
        rw [List.cons_append, List.cons_append, List.cons.injEq] at meet
        exact absurd (meet.1 ▸ List.mem_cons_self) (apart c (by simp))

structure IsWord (word : List Char) : Prop where
  nonempty : word ≠ []
  plain : ∀ c ∈ word, c.isAlphanum

theorem of_isAlphanum (c : Char) (plain : c.isAlphanum) :
    isVisible c ∧ isSchemeChar c ∧ endsAuthority true c = false ∧ c ≠ ':' ∧ c ≠ '@' ∧ c ≠ '%' ∧
      Percent.keeps Percent.userinfo c :=
  of_ascii (fun c => c.isAlphanum → isVisible c ∧ isSchemeChar c ∧ endsAuthority true c = false ∧
    c ≠ ':' ∧ c ≠ '@' ∧ c ≠ '%' ∧ Percent.keeps Percent.userinfo c) (by decide) c
    (ascii_of_isAlphanum c plain) plain

theorem IsWord.not_mem (word : List Char) (isWord : IsWord word) (sign : Char)
    (other : sign.isAlphanum = false) : sign ∉ word := by
  intro member
  rw [isWord.plain sign member] at other
  cases other

/-- Scheme, slashes and user name, up to the colon that a password follows. -/
inductive LeadsToPassword : List Char → Prop where
  | intro (scheme slashes user : List Char) (schemed : ∀ c ∈ scheme, isSchemeChar c)
      (slashed : ∀ c ∈ slashes, isSlash true c)
      (named : ∀ c ∈ user, c ≠ ':' ∧ endsAuthority true c = false) :
    LeadsToPassword (scheme ++ ':' :: (slashes ++ (user ++ [':'])))

def EndsUserinfo (back : List Char) : Prop :=
  ∀ front rest, back = front ++ '@' :: rest → ∃ c ∈ front, endsAuthority true c

/-- The text of a web URL, taken apart at its password. -/
structure PasswordAt (text front secret back : List Char) : Prop where
  whole : text = front ++ (secret ++ '@' :: back)
  leads : LeadsToPassword front
  inside : ∀ c ∈ secret, endsAuthority true c = false
  ends : EndsUserinfo back

theorem colon_of_leadsToPassword (front : List Char) (leads : LeadsToPassword front) :
    ∃ start, front = start ++ [':'] := by
  cases leads with
  | intro scheme slashes user => exact ⟨scheme ++ ':' :: (slashes ++ user), by simp⟩

theorem endsUserinfo_iff (back : List Char) :
    EndsUserinfo back ↔ '@' ∉ back.takeWhile fun c => !endsAuthority true c := by
  constructor
  · intro ends member
    obtain ⟨front, rest, split⟩ := List.append_of_mem member
    have whole := List.takeWhile_append_dropWhile (p := fun c => !endsAuthority true c) (l := back)
    rw [split, List.append_assoc, List.cons_append] at whole
    obtain ⟨c, early, stop⟩ := ends front _ whole.symm
    have inside : c ∈ back.takeWhile fun c => !endsAuthority true c := by
      rw [split]
      exact List.mem_append_left _ early
    simpa [stop] using List.mem_takeWhile_imp inside
  · intro absent front rest same
    by_contra none
    refine absent ?_
    have inside : ∀ c ∈ front, !endsAuthority true c := fun c member => by
      simpa using fun stop => none ⟨c, member, stop⟩
    have at_ : endsAuthority true '@' = false := rfl
    rw [same, List.takeWhile_append_of_pos inside, List.takeWhile_cons_of_pos (by simp [at_])]
    simp

section Exchange

variable (before first second after : List Char)

theorem leadsToPassword_exchange (wordFirst : IsWord first) (wordSecond : IsWord second)
    (leads : LeadsToPassword (before ++ (first ++ after))) :
    LeadsToPassword (before ++ (second ++ after)) := by
  generalize same : before ++ (first ++ after) = front at leads
  cases leads with
  | intro scheme slashes user schemed slashed named =>
      rcases word_beside ':' _ _ _ _ _ (wordFirst.not_mem first ':' rfl) same.symm with
        ⟨middle, rfl, rfl⟩ | ⟨middle, later, rfl⟩
      · have whole : before ++ (second ++ (middle ++ ':' :: (slashes ++ (user ++ [':'])))) =
            (before ++ (second ++ middle)) ++ ':' :: (slashes ++ (user ++ [':'])) := by simp
        rw [whole]
        refine .intro _ slashes user (fun c member => ?_) slashed named
        simp only [List.mem_append] at member
        rcases member with member | member | member
        · exact schemed c (by simp [member])
        · exact (of_isAlphanum c (wordSecond.plain c member)).2.1
        · exact schemed c (by simp [member])
      · have apart : ∀ c ∈ slashes, c ∉ first := by
          intro c slash member
          have inside := (of_isAlphanum c (wordFirst.plain c member)).2.2.1
          rw [endsAuthority, slashed c slash] at inside
          cases inside
        obtain ⟨gap, rfl, meet⟩ := word_after _ _ _ _ _ wordFirst.nonempty apart later
        rcases word_beside ':' user [] gap _ _ (wordFirst.not_mem first ':' rfl) meet with
          ⟨rest, rfl, rfl⟩ | ⟨rest, empty, -⟩
        · have whole : (scheme ++ ':' :: (slashes ++ gap)) ++ (second ++ (rest ++ [':'])) =
              scheme ++ ':' :: (slashes ++ ((gap ++ (second ++ rest)) ++ [':'])) := by simp
          rw [whole]
          refine .intro scheme slashes _ schemed slashed fun c member => ?_
          simp only [List.mem_append] at member
          rcases member with member | member | member
          · exact named c (by simp [member])
          · obtain ⟨-, -, inside, colon, -⟩ := of_isAlphanum c (wordSecond.plain c member)
            exact ⟨colon, inside⟩
          · exact named c (by simp [member])
        · simp [wordFirst.nonempty] at empty

theorem endsUserinfo_exchange (wordFirst : IsWord first) (wordSecond : IsWord second)
    (ends : EndsUserinfo (before ++ (first ++ after))) :
    EndsUserinfo (before ++ (second ++ after)) := by
  intro front rest same
  rcases word_beside '@' _ _ _ _ _ (wordSecond.not_mem second '@' rfl) same.symm with
    ⟨middle, rfl, rfl⟩ | ⟨middle, rfl, rfl⟩
  · obtain ⟨c, member, stop⟩ := ends (before ++ (first ++ middle)) rest (by simp)
    refine ⟨c, ?_, stop⟩
    simp only [List.mem_append] at member ⊢
    rcases member with member | member | member
    · exact .inl member
    · rw [(of_isAlphanum c (wordFirst.plain c member)).2.2.1] at stop
      cases stop
    · exact .inr (.inr member)
  · exact ends front (middle ++ (first ++ after)) (by simp)

theorem passwordAt_exchange (wordFirst : IsWord first) (wordSecond : IsWord second)
    (front back : List Char)
    (found : PasswordAt (before ++ (first ++ after)) front first back) :
    (before = front ∧ after = '@' :: back) ∨
      ∃ front' back', PasswordAt (before ++ (second ++ after)) front' first back' := by
  obtain ⟨start, rfl⟩ := colon_of_leadsToPassword front found.leads
  have whole : start ++ ':' :: (first ++ '@' :: back) = before ++ (first ++ after) := by
    rw [found.whole]
    simp
  rcases word_beside ':' _ _ _ _ _ (wordFirst.not_mem first ':' rfl) whole with
    ⟨middle, rfl, rfl⟩ | ⟨middle, later, rfl⟩
  · refine .inr ⟨before ++ (second ++ (middle ++ [':'])), back, ?_⟩
    have leads := found.leads
    rw [List.append_assoc, List.append_assoc] at leads
    constructor
    case whole => simp
    case leads => exact leadsToPassword_exchange _ _ _ _ wordFirst wordSecond leads
    case inside => exact found.inside
    case ends => exact found.ends
  · rcases word_beside '@' _ _ _ _ _ (wordFirst.not_mem first '@' rfl) later with
      ⟨rest, same, rfl⟩ | ⟨rest, rfl, rfl⟩
    · have counted := congrArg List.length same
      simp only [List.length_append] at counted
      obtain ⟨rfl, rfl⟩ : middle = [] ∧ rest = [] := by
        constructor <;> rw [← List.length_eq_zero_iff] <;> omega
      exact .inl ⟨by simp, by simp⟩
    · refine .inr ⟨start ++ [':'], rest ++ (second ++ after), ?_⟩
      constructor
      case whole => simp
      case leads => exact found.leads
      case inside => exact found.inside
      case ends => exact endsUserinfo_exchange _ _ _ _ wordFirst wordSecond found.ends

end Exchange

theorem readUserinfo_password_iff (cs : List Char) (p : String) :
    (readUserinfo cs).2 = some p ↔
      ∃ user secret, cs = user ++ ':' :: secret ∧ (∀ c ∈ user, c ≠ ':') ∧ secret ≠ [] ∧
        encodeUserinfo secret = p := by
  constructor
  · intro read
    have whole := List.takeWhile_append_dropWhile (p := fun c => decide (c ≠ ':')) (l := cs)
    have head := List.head?_dropWhile_not (fun c => decide (c ≠ ':')) cs
    rw [readUserinfo.eq_def] at read
    simp only at read
    split at read
    · rename_i colon c secret rest
      rw [rest, List.head?_cons] at head
      obtain rfl : colon = ':' := by simpa using head
      refine ⟨_, c :: secret, (whole.symm.trans (by rw [rest])), fun d member => ?_,
        List.cons_ne_nil _ _, Option.some.inj read⟩
      simpa using List.mem_takeWhile_imp member
    · cases read
  · rintro ⟨user, secret, rfl, plain, nonempty, rfl⟩
    rw [readUserinfo_append user secret (fun member => plain ':' member rfl) nonempty]

theorem splitLastAt_authority_iff (cs userinfo : List Char) :
    (∃ place, splitLastAt (cs.takeWhile fun c => !endsAuthority true c) = some (userinfo, place)) ↔
      ∃ back, cs = userinfo ++ '@' :: back ∧ (∀ c ∈ userinfo, endsAuthority true c = false) ∧
        EndsUserinfo back := by
  constructor
  · rintro ⟨place, split⟩
    obtain ⟨authority, absent⟩ := of_splitLastAt _ _ _ split
    have whole := List.takeWhile_append_dropWhile (p := fun c => !endsAuthority true c) (l := cs)
    rw [authority] at whole
    have inside : ∀ c ∈ userinfo ++ '@' :: place, endsAuthority true c = false := by
      intro c member
      rw [← authority] at member
      simpa using List.mem_takeWhile_imp member
    refine ⟨place ++ cs.dropWhile fun c => !endsAuthority true c, ?_,
      fun c member => inside c (by simp [member]), (endsUserinfo_iff _).mpr ?_⟩
    · simpa using whole.symm
    · have stops := head?_dropWhile (fun c => !endsAuthority true c) cs
      rw [(span_stop (fun c => !endsAuthority true c) place _
        (fun c member => by simp [inside c (by simp [member])]) stops).1]
      exact absent
  · rintro ⟨back, rfl, inside, ends⟩
    have at_ : endsAuthority true '@' = false := rfl
    have split := splitLastAt_append userinfo _ ((endsUserinfo_iff back).mp ends)
    rw [List.takeWhile_append_of_pos (fun c member => by simp [inside c member]),
      List.takeWhile_cons_of_pos (by simp [at_])]
    exact ⟨_, split⟩

theorem readAuthority_password_iff (scheme : String) (cs rest : List Char) (a : Authority)
    (read : readAuthority scheme true cs = .ok (a, rest)) (p : String) :
    a.password = some p ↔
      ∃ user secret back, cs = user ++ ':' :: (secret ++ '@' :: back) ∧
        (∀ c ∈ user, c ≠ ':' ∧ endsAuthority true c = false) ∧
        (∀ c ∈ secret, endsAuthority true c = false) ∧ EndsUserinfo back ∧ secret ≠ [] ∧
        encodeUserinfo secret = p := by
  obtain ⟨-, -, userinfo, -⟩ := parts_of_readAuthority scheme true cs rest a read
  have password := congrArg Prod.snd userinfo
  simp only at password
  rw [← password]
  constructor
  · intro found
    cases split : splitLastAt (cs.takeWhile fun c => !endsAuthority true c) with
    | none =>
        rw [split] at found
        cases found
    | some parts =>
        rw [split, Option.elim_some] at found
        obtain ⟨back, rfl, inside, ends⟩ :=
          (splitLastAt_authority_iff cs parts.1).mp ⟨parts.2, split⟩
        obtain ⟨user, secret, same, plain, nonempty, encoded⟩ :=
          (readUserinfo_password_iff parts.1 p).mp found
        rw [same] at inside ⊢
        refine ⟨user, secret, back, by simp, fun c member => ⟨plain c member, ?_⟩,
          fun c member => ?_, ends, nonempty, encoded⟩
        · exact inside c (by simp [member])
        · exact inside c (by simp [member])
  · rintro ⟨user, secret, back, rfl, named, inside, ends, nonempty, encoded⟩
    have within : ∀ c ∈ user ++ ':' :: secret, endsAuthority true c = false := by
      intro c member
      rcases List.mem_append.mp member with front | later
      · exact (named c front).2
      · rcases List.mem_cons.mp later with rfl | later
        · rfl
        · exact inside c later
    obtain ⟨place, split⟩ := (splitLastAt_authority_iff _ (user ++ ':' :: secret)).mpr
      ⟨back, rfl, within, ends⟩
    rw [List.append_assoc, List.cons_append] at split
    rw [split]
    exact (readUserinfo_password_iff _ p).mpr
      ⟨user, secret, rfl, fun c member => (named c member).1, nonempty, encoded⟩

theorem of_ofChars_special (text : List Char) (u : Url) (read : ofChars text = .ok u)
    (kind : SchemeKind.of u.scheme = .special) :
    ∃ raw rest a tail, clean text = raw ++ ':' :: rest ∧ (∀ c ∈ raw, isSchemeChar c) ∧
      readAuthority u.scheme true (rest.dropWhile (isSlash true)) = .ok (a, tail) ∧
      u.password = a.password := by
  obtain ⟨rest, split, how⟩ := readAs_of_ofChars text u read
  obtain ⟨raw, whole, -, schemed, -⟩ := of_splitScheme _ rest u.scheme split
  cases how with
  | file host tail whole =>
      rw [whole] at kind
      cases kind
  | web a tail special authority made =>
      refine ⟨raw, rest, a, tail, whole, schemed, authority, ?_⟩
      rw [made]
      rfl
  | named place a tail other =>
      rw [other] at kind
      cases kind
  | bare other =>
      rw [other] at kind
      cases kind

theorem ofChars_password_iff (text : List Char) (u : Url) (read : ofChars text = .ok u)
    (kind : SchemeKind.of u.scheme = .special) (p : String) :
    u.password = some p ↔
      ∃ front secret back, PasswordAt (clean text) front secret back ∧ secret ≠ [] ∧
        encodeUserinfo secret = p := by
  obtain ⟨raw, rest, a, tail, whole, schemed, authority, same⟩ :=
    of_ofChars_special text u read kind
  rw [same, readAuthority_password_iff u.scheme _ tail a authority p, whole]
  constructor
  · rintro ⟨user, secret, back, split, named, inside, ends, nonempty, encoded⟩
    have slashes := List.takeWhile_append_dropWhile (p := isSlash true) (l := rest)
    rw [split] at slashes
    refine ⟨raw ++ ':' :: (rest.takeWhile (isSlash true) ++ (user ++ [':'])), secret, back, ?_,
      nonempty, encoded⟩
    constructor
    case whole =>
      rw [List.append_assoc, List.cons_append, List.append_assoc, List.append_assoc]
      exact congrArg (fun tail => raw ++ ':' :: tail) slashes.symm
    case leads =>
      exact .intro raw _ user schemed (fun c member => List.mem_takeWhile_imp member) named
    case inside => exact inside
    case ends => exact ends
  · rintro ⟨front, secret, back, found, nonempty, encoded⟩
    have split := found.whole
    cases found.leads with
    | intro scheme slashes user schemed' slashed named =>
        rw [List.append_assoc, List.cons_append] at split
        have colon : isSchemeChar ':' = false := rfl
        have left := (span_stop isSchemeChar raw (':' :: rest) schemed (by simp [colon])).2
        rw [split, (span_stop isSchemeChar scheme _ schemed' (by simp [colon])).2,
          List.cons.injEq] at left
        have stops : ((user ++ [':']) ++ (secret ++ '@' :: back)).head?.all (!isSlash true ·) := by
          cases user with
          | nil => rfl
          | cons c user =>
              have first := (named c List.mem_cons_self).2
              rw [endsAuthority, Bool.or_eq_false_iff] at first
              simp [first.1]
        have drop := (span_stop (isSlash true) slashes _ slashed stops).2
        rw [← List.append_assoc, left.2] at drop
        exact ⟨user, secret, back, by simpa using drop, named, found.inside, found.ends, nonempty,
          encoded⟩

theorem encodeUserinfo_eq_word_iff (secret : List Char) (word : String) (isWord : IsWord word.toList) :
    encodeUserinfo secret = word ↔ secret = word.toList := by
  constructor
  · intro encoded
    have same : Percent.encode Percent.userinfo secret = word.toList := by
      rw [← encoded, encodeUserinfo, String.toList_ofList]
    have kept : ∀ c ∈ secret, Percent.keeps Percent.userinfo c :=
      Percent.keeps_of_encode _ secret (same ▸ isWord.not_mem _ '%' rfl)
    rw [← same, Percent.encode_eq_self _ _ kept]
  · rintro rfl
    exact encodeUserinfo_eq_self word fun c member =>
      (of_isAlphanum c (isWord.plain c member)).2.2.2.2.2.2

end ProxyCheck.Url
