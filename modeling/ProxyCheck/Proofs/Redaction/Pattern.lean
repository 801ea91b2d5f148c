import ProxyCheck.Redaction
import ProxyCheck.Proofs.Text.Visible
import ProxyCheck.Proofs.Url.Authority

/-! What the patterns look for, said without how they look: a pattern finds something at the start of
a text exactly if the text starts with what it looks for. -/
namespace ProxyCheck.Redaction

def IsMarked (keyword found : List Char) : Prop :=
  ∃ word separators value, found = word ++ (separators ++ value) ∧ word.map foldCase = keyword ∧
    separators ≠ [] ∧ (∀ c ∈ separators, isSeparator c) ∧ value ≠ [] ∧ ∀ c ∈ value, isBlank c = false

structure Spelled (scheme user password : List Char) : Prop where
  starts : scheme.head?.any isLower
  scheme : ∀ c ∈ scheme, isSchemeChar c
  named : user ≠ []
  user : ∀ c ∈ user, isUserChar c
  secret : password ≠ []
  password : ∀ c ∈ password, isPasswordChar c

def IsCredentials (found : List Char) : Prop :=
  ∃ scheme user password, Spelled scheme user password ∧
    found = scheme ++ ("://".toList ++ (user ++ ':' :: (password ++ ['@'])))

theorem afterWord?_eq_some_iff (word text rest : List Char) :
    afterWord? word text = some rest ↔ ∃ front, text = front ++ rest ∧ front.map foldCase = word := by
  induction word generalizing text with
  | nil =>
      rw [afterWord?, Option.some_inj]
      constructor
      · rintro rfl
        exact ⟨[], rfl, rfl⟩
      · rintro ⟨front, rfl, empty⟩
        rw [List.map_eq_nil_iff.mp empty, List.nil_append]
  | cons w word ih =>
      cases text with
      | nil =>
          constructor
          · nofun
          · rintro ⟨front, empty, folded⟩
            rw [(List.append_eq_nil_iff.mp empty.symm).1] at folded
            cases folded
      | cons c text =>
          rw [afterWord?]
          constructor
          · intro found
            split at found
            · rename_i same
              obtain ⟨front, rfl, folded⟩ := (ih text).mp found
              exact ⟨c :: front, rfl, by rw [List.map_cons, same, folded]⟩
            · cases found
          · rintro ⟨front, split, folded⟩
            cases front with
            | nil => cases folded
            | cons d front =>
                rw [List.map_cons, List.cons.injEq] at folded
                rw [List.cons_append, List.cons.injEq] at split
                rw [split.1, if_pos folded.1]
                exact (ih text).mpr ⟨front, split.2, folded.2⟩

theorem colon_of_isSeparator (c : Char) (separator : isSeparator c) (visible : isBlank c = false) :
    c = ':' := by
  simpa [isSeparator, visible] using separator

def HasValue (text : List Char) : Prop :=
  ∃ separators c rest, text = separators ++ c :: rest ∧ separators ≠ [] ∧
    (∀ s ∈ separators, isSeparator s) ∧ isBlank c = false

theorem hasValue_of_colons (separators : List Char) (all : ∀ s ∈ separators, isSeparator s)
    (two : 2 ≤ (dropTrailing (fun c => c ≠ ':') separators).length) : HasValue separators := by
  obtain ⟨dropped, split, -⟩ := dropTrailing_append (fun c => c ≠ ':') separators
  have last := getLast?_dropTrailing (fun c => c ≠ ':') separators
  generalize dropTrailing (fun c => decide (c ≠ ':')) separators = colons at split last two
  rcases colons.eq_nil_or_concat' with rfl | ⟨front, c, rfl⟩
  · exact absurd two (by decide)
  · have colon : c = ':' := by simpa using last c (by simp)
    refine ⟨front, c, dropped, by simpa using split, ?_, fun s member => all s ?_, ?_⟩
    · rintro rfl
      simp at two
    · rw [split]
      simp [member]
    · rw [colon]
      decide

theorem isSome_valueLength?_iff (text : List Char) : (valueLength? text).isSome ↔ HasValue text := by
  have split : text.takeWhile isSeparator ++ text.dropWhile isSeparator = text :=
    List.takeWhile_append_dropWhile
  have separators : ∀ s ∈ text.takeWhile isSeparator, isSeparator s := fun s member =>
    List.mem_takeWhile_imp member
  constructor
  · intro found
    rw [valueLength?] at found
    simp only at found
    split at found
    · split at found
      · rename_i two
        obtain ⟨front, c, rest, run, apart⟩ := hasValue_of_colons _ separators two
        have whole := split.symm
        rw [run, List.append_assoc] at whole
        exact ⟨front, c, rest ++ text.dropWhile isSeparator, whole, apart⟩
      · cases found
    · rename_i valued
      split at found
      · cases found
      · rename_i separated
        cases rest : text.dropWhile isSeparator with
        | nil => simp [rest] at valued
        | cons c tail =>
            refine ⟨_, c, tail, rest ▸ split.symm, by simpa using separated, separators, ?_⟩
            by_contra blank
            simp [rest, blank] at valued
  · rintro ⟨front, c, rest, rfl, separated, all, visible⟩
    rw [valueLength?]
    simp only
    by_cases separator : isSeparator c
    · have run : (front ++ c :: rest).takeWhile isSeparator =
          front ++ c :: rest.takeWhile isSeparator := by
        rw [List.takeWhile_append_of_pos all, List.takeWhile_cons_of_pos separator]
      have colon := colon_of_isSeparator c separator visible
      have far := length_dropTrailing (fun c => c ≠ ':') front (rest.takeWhile isSeparator) c
        (by simp [colon])
      have some := List.length_pos_of_ne_nil separated
      rw [run, if_pos (by omega : 2 ≤ _)]
      split <;> simp
    · obtain ⟨run, value⟩ := Url.span_stop isSeparator front (c :: rest) all (by simpa using separator)
      rw [run, value, List.takeWhile_cons_of_pos (by simp [visible])]
      simp [separated]

theorem isSome_marked_iff_hasValue (keyword text : List Char) :
    (marked keyword text).isSome ↔
      ∃ word rest, text = word ++ rest ∧ word.map foldCase = keyword ∧ HasValue rest := by
  constructor
  · intro found
    cases after : afterWord? keyword text with
    | none => simp [marked, after] at found
    | some rest =>
        obtain ⟨word, split, folded⟩ := (afterWord?_eq_some_iff keyword text rest).mp after
        refine ⟨word, rest, split, folded, (isSome_valueLength?_iff rest).mp ?_⟩
        cases value : valueLength? rest with
        | none => simp [marked, after, value] at found
        | some n => rfl
  · rintro ⟨word, rest, split, folded, valued⟩
    have after := (afterWord?_eq_some_iff keyword text rest).mpr ⟨word, split, folded⟩
    obtain ⟨n, value⟩ := Option.isSome_iff_exists.mp ((isSome_valueLength?_iff rest).mpr valued)
    simp [marked, after, value]

theorem isSome_marked_iff (keyword text : List Char) :
    (marked keyword text).isSome ↔ ∃ found, found <+: text ∧ IsMarked keyword found := by
  rw [isSome_marked_iff_hasValue]
  constructor
  · rintro ⟨word, _, rfl, folded, separators, c, rest, rfl, separated, all, visible⟩
    refine ⟨word ++ (separators ++ [c]), ⟨rest, by simp⟩, word, separators, [c], rfl, folded,
      separated, all, List.cons_ne_nil _ _, ?_⟩
    rintro d (member : d ∈ [c])
    rw [List.mem_singleton.mp member]
    exact visible
  · rintro ⟨_, ⟨rest, rfl⟩, word, separators, value, rfl, folded, separated, all, valued, visible⟩
    obtain ⟨c, more, rfl⟩ := List.exists_cons_of_ne_nil valued
    refine ⟨word, separators ++ c :: (more ++ rest), by simp, folded, separators, c, more ++ rest,
      rfl, separated, all, visible c List.mem_cons_self⟩

theorem userinfoLength?_eq_some_iff (text : List Char) (n : Nat) :
    userinfoLength? text = some n ↔ ∃ user password rest,
      text = user ++ ':' :: (password ++ '@' :: rest) ∧ n = user.length + password.length + 2 ∧
        user ≠ [] ∧ (∀ c ∈ user, isUserChar c) ∧ password ≠ [] ∧ ∀ c ∈ password, isPasswordChar c := by
  constructor
  · intro found
    have named : text.takeWhile isUserChar ++ text.dropWhile isUserChar = text :=
      List.takeWhile_append_dropWhile
    rw [userinfoLength?] at found
    simp only at found
    split at found
    · rename_i rest colon
      have secret : rest.takeWhile isPasswordChar ++ rest.dropWhile isPasswordChar = rest :=
        List.takeWhile_append_dropWhile
      split at found
      · rename_i complete
        simp only [Bool.and_eq_true, Bool.not_eq_true', List.isEmpty_eq_false_iff,
          decide_eq_true_eq] at complete
        obtain ⟨⟨user, password⟩, at_⟩ := complete
        obtain ⟨tail, ends⟩ := List.head?_eq_some_iff.mp at_
        cases found
        refine ⟨_, _, tail, ?_, rfl, user, fun c member => List.mem_takeWhile_imp member, password,
          fun c member => List.mem_takeWhile_imp member⟩
        rw [← ends, secret, ← colon, named]
      · cases found
    · cases found
  · rintro ⟨user, password, rest, rfl, rfl, named, users, secret, passwords⟩
    obtain ⟨user', colon⟩ := Url.span_stop isUserChar user (':' :: (password ++ '@' :: rest)) users
      rfl
    obtain ⟨password', at_⟩ := Url.span_stop isPasswordChar password ('@' :: rest) passwords rfl
    rw [userinfoLength?, user', colon]
    simp only
    rw [password', at_]
    simp [named, secret]

theorem credentials_eq_some_iff (text : List Char) (found : Finding) :
    credentials text = some found ↔ ∃ scheme user password rest, Spelled scheme user password ∧
      text = scheme ++ ("://".toList ++ (user ++ ':' :: (password ++ '@' :: rest))) ∧
        found = ⟨scheme.length + 3 + (user.length + password.length + 2),
          scheme ++ "://".toList ++ marker ++ ['@']⟩ := by
  constructor
  · intro finds
    have schemed : text.takeWhile isSchemeChar ++ text.dropWhile isSchemeChar = text :=
      List.takeWhile_append_dropWhile
    rw [credentials] at finds
    split at finds
    · rename_i starts
      split at finds
      · rename_i rest slashes
        obtain ⟨n, length, rfl⟩ := Option.map_eq_some_iff.mp finds
        obtain ⟨user, password, tail, rfl, rfl, named, users, secret, passwords⟩ :=
          (userinfoLength?_eq_some_iff rest n).mp length
        refine ⟨text.takeWhile isSchemeChar, user, password, tail, ⟨?_, fun c member =>
          List.mem_takeWhile_imp member, named, users, secret, passwords⟩, ?_, rfl⟩
        · cases text with
          | nil => exact starts
          | cons c more =>
              have lower : isLower c := by simpa using starts
              have inside : isSchemeChar c := by simp [isSchemeChar, lower]
              simpa [List.takeWhile_cons_of_pos inside] using lower
        · exact schemed.symm.trans (congrArg _ slashes)
      · cases finds
    · cases finds
  · rintro ⟨scheme, user, password, rest, spelled, rfl, rfl⟩
    have length := (userinfoLength?_eq_some_iff _ _).mpr
      ⟨user, password, rest, rfl, rfl, spelled.named, spelled.user, spelled.secret, spelled.password⟩
    obtain ⟨scheme', slashes⟩ := Url.span_stop isSchemeChar scheme
      ("://".toList ++ (user ++ ':' :: (password ++ '@' :: rest))) spelled.scheme rfl
    have starts : (scheme ++ ("://".toList ++ (user ++ ':' :: (password ++ '@' :: rest)))).head?.any
        isLower := by
      cases scheme with
      | nil => exact absurd spelled.starts (by decide)
      | cons c more => exact spelled.starts
    rw [credentials, if_pos starts, scheme', slashes]
    exact congrArg (Option.map _) length

theorem isSome_credentials_iff (text : List Char) :
    (credentials text).isSome ↔ ∃ found, found <+: text ∧ IsCredentials found := by
  constructor
  · intro finds
    obtain ⟨f, finds⟩ := Option.isSome_iff_exists.mp finds
    obtain ⟨scheme, user, password, rest, spelled, rfl, -⟩ := (credentials_eq_some_iff text f).mp finds
    exact ⟨_, ⟨rest, by simp⟩, scheme, user, password, spelled, rfl⟩
  · rintro ⟨_, ⟨rest, rfl⟩, scheme, user, password, spelled, rfl⟩
    rw [Option.isSome_iff_exists]
    exact ⟨_, (credentials_eq_some_iff _ _).mpr
      ⟨scheme, user, password, rest, spelled, by simp, rfl⟩⟩

end ProxyCheck.Redaction
