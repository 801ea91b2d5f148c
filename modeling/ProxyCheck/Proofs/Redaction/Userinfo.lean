import ProxyCheck.Proofs.Redaction.Reach

/-! The password of a URL goes out of a text without a trace, whatever stands around the URL: a
keyword's pattern takes all of it or nothing, and what is left of the URL the last pattern finds. -/
namespace ProxyCheck.Redaction

/-- A text that can stand for a password wherever one is expected. -/
structure IsSecret (word : List Char) : Prop where
  nonempty : word ≠ []
  plain : ∀ c ∈ word, isUserChar c

def urlFront (scheme user : List Char) : List Char :=
  scheme ++ ("://".toList ++ (user ++ [':']))

structure Leads (scheme user : List Char) : Prop where
  starts : scheme.head?.any isLower
  scheme : ∀ c ∈ scheme, isSchemeChar c
  named : user ≠ []
  user : ∀ c ∈ user, isUserChar c

theorem plain_of_isUserChar (c : Char) (plain : isUserChar c) :
    c ≠ '/' ∧ c ≠ '@' ∧ isSeparator c = false := by
  simp only [isUserChar, Bool.not_eq_true', Bool.or_eq_false_iff, beq_eq_false_iff_ne] at plain
  obtain ⟨⟨⟨slash, blank⟩, colon⟩, at_⟩ := plain
  exact ⟨slash, at_, by simp [isSeparator, blank, colon]⟩

theorem isPasswordChar_of_isUserChar (c : Char) (plain : isUserChar c) : isPasswordChar c := by
  obtain ⟨slash, at_, separator⟩ := plain_of_isUserChar c plain
  simp [isPasswordChar, slash, at_, blank_of_isSeparator c separator]

theorem Leads.spelled {scheme user : List Char} (leads : Leads scheme user) (password : List Char)
    (secret : IsSecret password) : Spelled scheme user password :=
  ⟨leads.starts, leads.scheme, leads.named, leads.user, secret.nonempty,
    fun c member => isPasswordChar_of_isUserChar c (secret.plain c member)⟩

theorem visible_of_isSchemeChar (c : Char) (inside : isSchemeChar c) : isBlank c = false := by
  apply isBlank_of_visible
  simp only [isSchemeChar, isLower, Char.isDigit, Bool.or_eq_true, Bool.and_eq_true, beq_iff_eq,
    decide_eq_true_eq, Char.le_def, UInt32.le_iff_toNat_le, ge_iff_le, Char.reduceVal,
    UInt32.reduceToNat] at inside
  have value : c.val.toNat = c.toNat := rfl
  rcases inside with (((lower | digit) | rfl) | rfl) | rfl
  · simp only [isVisible, Bool.and_eq_true, decide_eq_true_eq]
    omega
  · simp only [isVisible, Bool.and_eq_true, decide_eq_true_eq]
    omega
  · decide
  · decide
  · decide

theorem Leads.visible {scheme user : List Char} (leads : Leads scheme user) :
    ∀ c ∈ urlFront scheme user, isBlank c = false := by
  intro c member
  simp only [urlFront, List.mem_append, List.mem_singleton] at member
  rcases member with inside | marks | inside | rfl
  · exact visible_of_isSchemeChar c (leads.scheme c inside)
  · exact of_mem (isBlank · = false) "://".toList (by decide) c marks
  · exact visible_of_isUserChar c (leads.user c inside)
  · decide

theorem at_of_word (keyword : String) (member : keyword ∈ keywords) (word : List Char)
    (folded : word.map foldCase = keyword.toList) : '@' ∉ word := by
  have absent : ∀ keyword ∈ keywords, foldCase '@' ∉ keyword.toList := by decide
  intro inside
  exact absent keyword member (folded ▸ List.mem_map_of_mem inside)

theorem unseparated_of_solid (solid back marks rest : List Char) (sign : Char)
    (solids : ∀ c ∈ solid, isSeparator c = false) (stop : isSeparator sign = false)
    (absent : sign ∉ marks) (same : solid ++ sign :: back = marks ++ rest) :
    rest.head?.all fun c => !isSeparator c := by
  rcases List.append_eq_append_iff.mp same with ⟨more, rfl, split⟩ | ⟨gap, rfl, rfl⟩
  · cases more with
    | nil =>
        have ends : rest = sign :: back := by simpa using split.symm
        simp [ends, stop]
    | cons c more =>
        obtain ⟨rfl, -⟩ : sign = c ∧ _ := by simpa using split
        simp at absent
  · cases gap with
    | nil => simp [stop]
    | cons c gap => simp [solids c (by simp)]

theorem apart_of_secret (keyword : String) (member : keyword ∈ keywords) (front back : List Char) :
    Apart keyword.toList front fun tail => ∃ word, IsSecret word ∧ tail = word ++ '@' :: back := by
  constructor
  · rintro tail ⟨word, secret, rfl⟩
    obtain ⟨c, word, rfl⟩ := List.exists_cons_of_ne_nil secret.nonempty
    simp [(plain_of_isUserChar c (secret.plain c List.mem_cons_self)).2.2]
  · rintro tail ⟨word, secret, rfl⟩ marks rest same folded longer
    rcases List.append_eq_append_iff.mp same with ⟨more, rfl, split⟩ | ⟨gap, rfl, -⟩
    · have absent := at_of_word keyword member _ folded
      rw [List.mem_append, not_or] at absent
      exact unseparated_of_solid word back more rest '@'
        (fun c inside => (plain_of_isUserChar c (secret.plain c inside)).2.2) (by decide) absent.2 split
    · rw [List.length_append] at longer
      omega

theorem replaceAll_secret (keyword : String) (member : keyword ∈ keywords) (word back : List Char)
    (plain : ∀ c ∈ word, isUserChar c) :
    Pattern.replaceAll (marked keyword.toList) (word ++ '@' :: back) =
      word ++ '@' :: Pattern.replaceAll (marked keyword.toList) back := by
  have nothing (start : List Char) (plain : ∀ c ∈ start, isUserChar c) :
      marked keyword.toList (start ++ '@' :: back) = none :=
    marked_of_unseparated _ _ fun marks rest same folded =>
      unseparated_of_solid start back marks rest '@'
        (fun c inside => (plain_of_isUserChar c (plain c inside)).2.2) (by decide)
        (at_of_word keyword member marks folded) same
  rw [replaceAll_passing _ word ('@' :: back) fun start suffix _ =>
    nothing start fun c inside => plain c (suffix.subset inside)]
  exact congrArg (word ++ ·) (replaceAll_of_none _ '@' back (nothing [] nofun))

/-- Texts, one for each password: the password is gone from them, or it stands in its URL, and all
else is the same. -/
inductive Guarded (scheme user : List Char) (texts : List Char → List Char) : Prop where
  | gone (out : List Char) (same : ∀ word, IsSecret word → texts word = out)
  | kept (front back : List Char) (same : ∀ word, IsSecret word →
      texts word = front ++ (urlFront scheme user ++ (word ++ '@' :: back)))

theorem guarded_marked (keyword : String) (member : keyword ∈ keywords) (scheme user : List Char)
    (leads : Leads scheme user) (texts : List Char → List Char) (guarded : Guarded scheme user texts) :
    Guarded scheme user fun word => Pattern.replaceAll (marked keyword.toList) (texts word) := by
  cases guarded with
  | gone out same => exact .gone _ fun word secret => congrArg _ (same word secret)
  | kept front back same =>
      rcases replaceAll_front keyword.toList front (urlFront scheme user)
        (fun tail => ∃ word, IsSecret word ∧ tail = word ++ '@' :: back) leads.visible
        (fun start _ _ => verdict _ start _ (apart_of_secret keyword member start back)) with
        ⟨out, stays⟩ | ⟨out, reaches⟩
      · refine .kept out (Pattern.replaceAll (marked keyword.toList) back) fun word secret => ?_
        simp only [same word secret]
        rw [stays _ ⟨word, secret, rfl⟩, replaceAll_secret keyword member word back secret.plain]
      · refine .gone (out ++ (marker ++ Pattern.replaceAll (marked keyword.toList) (afterValue back)))
          fun word secret => ?_
        have visible : ∀ c ∈ word ++ ['@'], isBlank c = false := by
          intro c inside
          rw [List.mem_append, List.mem_singleton] at inside
          rcases inside with plain | rfl
          · exact visible_of_isUserChar c (secret.plain c plain)
          · decide
        have after := afterValue_append (word ++ ['@']) back visible
        rw [List.append_assoc] at after
        simp only [same word secret]
        rw [reaches _ ⟨word, secret, rfl⟩]
        exact congrArg (fun rest => out ++ (marker ++ Pattern.replaceAll (marked keyword.toList) rest))
          after

theorem credentials_append (front : List Char) (found : Finding)
    (finds : credentials front = some found) : ∃ taken rest, front = taken ++ rest ∧ taken ≠ [] ∧
      ∀ more, credentials (taken ++ (rest ++ more)) = some ⟨taken.length, found.replacement⟩ := by
  obtain ⟨scheme, user, password, rest, spelled, rfl, rfl⟩ := (credentials_eq_some_iff _ _).mp finds
  refine ⟨scheme ++ ("://".toList ++ (user ++ ':' :: (password ++ ['@']))), rest, by simp, by simp,
    fun more => ?_⟩
  refine (credentials_eq_some_iff _ _).mpr ⟨scheme, user, password, rest ++ more, spelled, by simp, ?_⟩
  simp
  omega

theorem prefix_of_last (start front back : List Char) (sign : Char) (absent : sign ∉ back)
    (starts : start ++ [sign] <+: front ++ back) : start ++ [sign] <+: front := by
  obtain ⟨rest, same⟩ := starts
  rcases List.append_eq_append_iff.mp same with ⟨more, longer, -⟩ | ⟨more, longer, rest⟩
  · exact ⟨more, longer.symm⟩
  · rcases more.eq_nil_or_concat' with rfl | ⟨more, c, rfl⟩
    · exact ⟨[], by simpa using longer⟩
    · rw [← List.append_assoc] at longer
      have last : sign = c := by simpa using (List.append_inj' longer rfl).2
      rw [rest, last] at absent
      simp at absent

theorem split_at_scheme (front scheme scheme' back back' : List Char)
    (starts : scheme.head?.any isLower) (schemed : ∀ c ∈ scheme, isSchemeChar c)
    (signs : ∀ c ∈ scheme', isSchemeChar c)
    (same : front ++ (scheme ++ ("://".toList ++ back)) = scheme' ++ ("://".toList ++ back')) :
    front ++ scheme = scheme' ∨ ∃ more, front = scheme' ++ ("://".toList ++ more) ∧
      back' = more ++ (scheme ++ ("://".toList ++ back)) := by
  obtain ⟨first, rest, rfl⟩ : ∃ first rest, scheme = first :: rest := by
    cases scheme with
    | nil => exact absurd starts (by decide)
    | cons first rest => exact ⟨first, rest, rfl⟩
  have letter : first ≠ '/' := by
    rintro rfl
    exact absurd starts (by simp; decide)
  have colon : ':' ∉ first :: rest := fun inside => absurd (schemed ':' inside) (by decide)
  rw [← List.append_assoc] at same
  rcases List.append_eq_append_iff.mp same with ⟨more, longer, shifted⟩ | ⟨more, shorter, shifted⟩
  · cases more with
    | nil => exact .inl (by simpa using longer.symm)
    | cons c more =>
        obtain ⟨rfl, -⟩ : ':' = c ∧ _ := by simpa using shifted
        exact absurd (signs ':' (by simp [longer])) (by decide)
  · cases more with
    | nil => exact .inl (by simpa using shorter)
    | cons c more =>
        obtain ⟨rfl, slashes⟩ : ':' = c ∧ '/' :: '/' :: back' = more ++ ("://".toList ++ back) := by
          simpa using shifted
        -- The mark stands before the other scheme, which has neither its colon nor its slashes.
        rcases List.append_eq_append_iff.mp shorter with ⟨gap, -, late⟩ | ⟨gap, early, late⟩
        · rw [late] at colon
          simp at colon
        · cases gap with
          | nil =>
              rw [List.nil_append] at late
              rw [← late] at colon
              simp at colon
          | cons d gap =>
              obtain ⟨rfl, rfl⟩ : ':' = d ∧ more = gap ++ first :: rest := by simpa using late
              rcases gap with _ | ⟨a, _ | ⟨b, gap⟩⟩
              · exact absurd (List.cons.inj slashes).1.symm letter
              · exact absurd (List.cons.inj (List.cons.inj slashes).2).1.symm letter
              · obtain ⟨rfl, rfl, later⟩ : '/' = a ∧ '/' = b ∧
                    back' = gap ++ (first :: rest ++ ("://".toList ++ back)) := by
                  simpa using slashes
                exact .inr ⟨gap, by simpa using early, later⟩

theorem credentials_before (front scheme user word back : List Char) (leads : Leads scheme user)
    (found : Finding)
    (finds : credentials (front ++ (urlFront scheme user ++ (word ++ '@' :: back))) = some found) :
    (credentials front).isSome ∨ (∀ c ∈ front, isSchemeChar c) ∧ (front ++ scheme).head?.any isLower := by
  obtain ⟨scheme', user', password', rest, spelled, split, -⟩ := (credentials_eq_some_iff _ _).mp finds
  have split : front ++ (scheme ++ ("://".toList ++ (user ++ ':' :: (word ++ '@' :: back)))) =
      scheme' ++ ("://".toList ++ (user' ++ ':' :: (password' ++ '@' :: rest))) := by
    simpa [urlFront] using split
  rcases split_at_scheme front scheme scheme' _ _ leads.starts leads.scheme spelled.scheme split with
    whole | ⟨more, early, later⟩
  · refine .inr ⟨fun c member => spelled.scheme c (whole ▸ List.mem_append_left _ member), ?_⟩
    rw [whole]
    exact spelled.starts
  · have slash := slash_of_spelled scheme' user' password' spelled
    have starts : user' ++ ':' :: (password' ++ ['@']) <+:
        (more ++ (scheme ++ [':'])) ++ '/' :: ('/' :: (user ++ ':' :: (word ++ '@' :: back))) :=
      ⟨rest, by simp [later]⟩
    have within := prefix_of_sign _ _ _ '/' slash starts
    have absent : '@' ∉ scheme ++ [':'] := by
      rw [List.mem_append, List.mem_singleton, not_or]
      exact ⟨fun inside => absurd (leads.scheme '@' inside) (by decide), by decide⟩
    have shape : user' ++ ':' :: (password' ++ ['@']) = (user' ++ ':' :: password') ++ ['@'] := by simp
    rw [shape] at within
    obtain ⟨tail, whole⟩ := prefix_of_last _ more _ '@' absent within
    refine .inl ((isSome_credentials_iff front).mpr ⟨_, ⟨tail, ?_⟩, scheme', user', password', spelled, rfl⟩)
    rw [early, ← whole]
    simp

theorem credentials_erases (scheme user : List Char) (leads : Leads scheme user) (back front : List Char) :
    ∃ out, ∀ word, IsSecret word → Pattern.replaceAll credentials
      (front ++ (urlFront scheme user ++ (word ++ '@' :: back))) = out := by
  induction size : front.length using Nat.strongRecOn generalizing front with
  | ind n ih =>
      cases finds : credentials front with
      | some found =>
          obtain ⟨taken, rest, rfl, nonempty, finds⟩ := credentials_append front found finds
          have less : rest.length < n := by
            have positive := List.length_pos_of_ne_nil nonempty
            rw [← size, List.length_append]
            omega
          obtain ⟨out, same⟩ := ih rest.length less rest rfl
          refine ⟨found.replacement ++ out, fun word secret => ?_⟩
          rw [List.append_assoc, replaceAll_of_found _ taken _ found.replacement nonempty (finds _),
            same word secret]
      | none =>
          by_cases whole : (∀ c ∈ front, isSchemeChar c) ∧ (front ++ scheme).head?.any isLower
          · refine ⟨(front ++ scheme ++ "://".toList ++ marker ++ ['@']) ++
              Pattern.replaceAll credentials back, fun word secret => ?_⟩
            have schemed : ∀ c ∈ front ++ scheme, isSchemeChar c := by
              intro c member
              rcases List.mem_append.mp member with inside | inside
              · exact whole.1 c inside
              · exact leads.scheme c inside
            have spelled : Spelled (front ++ scheme) user word :=
              { leads.spelled word secret with starts := whole.2, scheme := schemed }
            have taken : front ++ (urlFront scheme user ++ (word ++ '@' :: back)) =
                (front ++ (urlFront scheme user ++ (word ++ ['@']))) ++ back := by simp
            rw [taken]
            refine replaceAll_of_found _ _ back _ (by simp) ((credentials_eq_some_iff _ _).mpr
              ⟨front ++ scheme, user, word, back, spelled, by simp [urlFront], ?_⟩)
            simp [urlFront]
            omega
          · have nothing (word : List Char) :
                credentials (front ++ (urlFront scheme user ++ (word ++ '@' :: back))) = none := by
              by_contra some
              obtain ⟨found, some⟩ := Option.ne_none_iff_exists'.mp some
              rcases credentials_before front scheme user word back leads found some with before | here
              · rw [finds] at before
                cases before
              · exact whole here
            cases front with
            | nil => exact absurd ⟨nofun, leads.starts⟩ whole
            | cons c front =>
                obtain ⟨out, same⟩ := ih front.length (by simp [← size]) front rfl
                refine ⟨c :: out, fun word secret => ?_⟩
                have first := nothing word
                rw [List.cons_append] at first ⊢
                rw [replaceAll_of_none _ c _ first, same word secret]

theorem guarded_keywords (scheme user : List Char) (leads : Leads scheme user) (all : List String)
    (listed : ∀ keyword ∈ all, keyword ∈ keywords) (texts : List Char → List Char)
    (guarded : Guarded scheme user texts) :
    Guarded scheme user fun word => sweep all (texts word) := by
  induction all generalizing texts with
  | nil => exact guarded
  | cons keyword rest ih =>
      exact ih (fun other member => listed other (List.mem_cons_of_mem keyword member)) _
        (guarded_marked keyword (listed keyword List.mem_cons_self) scheme user leads texts guarded)

/-- A redacted text is the same whichever password a URL in it has. -/
theorem redactChars_secret (scheme user : List Char) (leads : Leads scheme user)
    (front back : List Char) : ∃ out, ∀ word, IsSecret word →
      redactChars (front ++ (urlFront scheme user ++ (word ++ '@' :: back))) = out := by
  have guarded := guarded_keywords scheme user leads keywords (fun _ member => member) _
    (.kept front back fun _ _ => rfl)
  cases guarded with
  | gone out same => exact ⟨_, fun word secret => by rw [redactChars_eq_sweep, same word secret]⟩
  | kept front back same =>
      obtain ⟨out, erased⟩ := credentials_erases scheme user leads back front
      exact ⟨out, fun word secret => by
        rw [redactChars_eq_sweep, same word secret, erased word secret]⟩

end Redaction

open Redaction

/-- Redaction takes the password out of a URL without a trace, whatever the text around the URL. -/
theorem redact_url_password (before after scheme user one two : String)
    (leads : Leads scheme.toList user.toList) (first : IsSecret one.toList)
    (second : IsSecret two.toList) :
    redact (before ++ scheme ++ "://" ++ user ++ ":" ++ one ++ "@" ++ after) =
      redact (before ++ scheme ++ "://" ++ user ++ ":" ++ two ++ "@" ++ after) := by
  obtain ⟨out, same⟩ := redactChars_secret scheme.toList user.toList leads before.toList after.toList
  have spelled (word : String) :
      (before ++ scheme ++ "://" ++ user ++ ":" ++ word ++ "@" ++ after).toList =
        before.toList ++ (urlFront scheme.toList user.toList ++ (word.toList ++ '@' :: after.toList)) := by
    simp [urlFront]
  rw [redact, redact, spelled, spelled, same _ first, same _ second]

/-- A password that is itself a keyword, in a URL glued to another one behind a keyword. -/
theorem redact_url_password_glued :
    Leads "x+http".toList "bob".toList ∧ IsSecret "password".toList ∧ IsSecret "hunter2".toList ∧
      redact ("token: a http://u:v@h" ++ "x+http" ++ "://" ++ "bob" ++ ":" ++ "password" ++ "@" ++ "/ x") =
        redact ("token: a http://u:v@h" ++ "x+http" ++ "://" ++ "bob" ++ ":" ++ "hunter2" ++ "@" ++ "/ x") := by
  have leads : Leads "x+http".toList "bob".toList :=
    ⟨by decide, of_mem (isSchemeChar ·) "x+http".toList (by decide), nofun,
      of_mem (isUserChar ·) "bob".toList (by decide)⟩
  have first : IsSecret "password".toList := ⟨nofun, of_mem (isUserChar ·) "password".toList (by decide)⟩
  have second : IsSecret "hunter2".toList := ⟨nofun, of_mem (isUserChar ·) "hunter2".toList (by decide)⟩
  exact ⟨leads, first, second, redact_url_password "token: a http://u:v@h" "/ x" "x+http" "bob" "password"
    "hunter2" leads first second⟩

end ProxyCheck
