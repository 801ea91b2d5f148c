import ProxyCheck.Proofs.Redaction.Pattern

/-! A redacted message is in normal form: nothing that a pattern looks for is in it, neither in what
was left of the message nor where that meets a marker. -/
namespace ProxyCheck.Redaction

def Pattern.Clear (p : Pattern) (text : List Char) : Prop :=
  ∀ tail, tail <:+ text → p tail = none

theorem Pattern.Clear.of_suffix (p : Pattern) (tail text : List Char) (clear : p.Clear text)
    (suffix : tail <:+ text) : p.Clear tail :=
  fun _ inner => clear _ (inner.trans suffix)

theorem Pattern.replaceAll_of_clear (p : Pattern) (text : List Char) (clear : p.Clear text) :
    p.replaceAll text = text := by
  induction text with
  | nil => rw [replaceAll]
  | cons c rest ih =>
      rw [replaceAll, clear (c :: rest) List.suffix_rfl]
      exact congrArg (c :: ·) (ih (clear.of_suffix p rest _ (List.suffix_cons c rest)))

/-- The second text is the first with the marker in the place of some pieces. `kept` holds of the
first text from each sign on that has stayed. -/
inductive Hides (kept : List Char → Prop) : List Char → List Char → Prop where
  | nil : Hides kept [] []
  | keep (c : Char) (text out : List Char) (stays : kept (c :: text)) (rest : Hides kept text out) :
      Hides kept (c :: text) (c :: out)
  | hide (c : Char) (secret text out : List Char) (visible : isBlank c = false)
      (rest : Hides kept text out) : Hides kept (c :: (secret ++ text)) (marker ++ out)

namespace Hides

variable {kept : List Char → Prop}

theorem keep_append (front text out : List Char)
    (stays : ∀ tail, tail <:+ front ++ text → kept tail) (rest : Hides kept text out) :
    Hides kept (front ++ text) (front ++ out) := by
  induction front with
  | nil => exact rest
  | cons c front ih =>
      exact .keep c (front ++ text) (front ++ out) (stays _ List.suffix_rfl)
        (ih fun tail suffix => stays tail (suffix.trans (List.suffix_cons c _)))

theorem split (text out : List Char) (hides : Hides kept text out) :
    text = out ∨ ∃ front c tail rest, text = front ++ c :: tail ∧ isBlank c = false ∧
      out = front ++ '[' :: rest := by
  induction hides with
  | nil => exact .inl rfl
  | keep c text out stays rest ih =>
      rcases ih with same | ⟨front, d, tail, more, rfl, visible, rfl⟩
      · exact .inl (congrArg (c :: ·) same)
      · exact .inr ⟨c :: front, d, tail, more, rfl, visible, rfl⟩
  | hide c secret text out visible rest ih => exact .inr ⟨[], c, _, _, rfl, visible, rfl⟩

end Hides

theorem bracket_of_word (keyword : String) (member : keyword ∈ keywords) (word : List Char)
    (folded : word.map foldCase = keyword.toList) : '[' ∉ word := by
  have absent : ∀ keyword ∈ keywords, foldCase '[' ∉ keyword.toList := by decide
  intro inside
  exact absent keyword member (folded ▸ List.mem_map_of_mem inside)

theorem bracket_of_separators (separators : List Char) (all : ∀ s ∈ separators, isSeparator s) :
    '[' ∉ separators :=
  fun inside => absurd (all _ inside) (by decide)

theorem prefix_of_sign (start front back : List Char) (sign : Char) (absent : sign ∉ start)
    (starts : start <+: front ++ sign :: back) : start <+: front := by
  obtain ⟨rest, same⟩ := starts
  rcases List.append_eq_append_iff.mp same with ⟨more, longer, -⟩ | ⟨more, longer, shifted⟩
  · exact ⟨more, longer.symm⟩
  · cases more with
    | nil => exact ⟨[], by simpa using longer⟩
    | cons d more =>
        rw [List.cons_append, List.cons.injEq] at shifted
        rw [longer, shifted.1] at absent
        simp at absent

theorem marked_of_hides (kept : List Char → Prop) (keyword : String) (member : keyword ∈ keywords)
    (text out : List Char) (hides : Hides kept text out)
    (found : (marked keyword.toList out).isSome) : (marked keyword.toList text).isSome := by
  rcases hides.split with rfl | ⟨front, c, tail, rest, rfl, visible, rfl⟩
  · exact found
  · rw [isSome_marked_iff_hasValue] at found ⊢
    obtain ⟨word, after, split, folded, separators, d, more, rfl, separated, all, shown⟩ := found
    have absent : '[' ∉ word ++ separators := by
      rw [List.mem_append, not_or]
      exact ⟨bracket_of_word keyword member word folded, bracket_of_separators separators all⟩
    have starts : word ++ separators <+: front ++ '[' :: rest := ⟨d :: more, by simp [split]⟩
    obtain ⟨between, rfl⟩ := prefix_of_sign _ front rest '[' absent starts
    refine ⟨word, separators ++ (between ++ c :: tail), by simp, folded, separators, ?_⟩
    cases between with
    | nil => exact ⟨c, tail, rfl, separated, all, visible⟩
    | cons e between =>
        obtain ⟨same, -⟩ : d = e ∧ more = between ++ '[' :: rest := by simpa using split.symm
        exact ⟨e, between ++ c :: tail, rfl, separated, all, same ▸ shown⟩

theorem marked_nil (keyword : List Char) : marked keyword [] = none := by
  by_contra found
  rw [← ne_eq, Option.ne_none_iff_isSome, isSome_marked_iff_hasValue] at found
  obtain ⟨word, _, split, -, separators, c, rest, rfl, -⟩ := found
  simp at split

theorem marked_unlike (keyword front out : List Char)
    (unlike : ¬keyword <+: front.map foldCase ∧ ¬front.map foldCase <+: keyword) :
    marked keyword (front ++ out) = none := by
  by_contra found
  rw [← ne_eq, Option.ne_none_iff_isSome, isSome_marked_iff_hasValue] at found
  obtain ⟨word, rest, split, folded, -⟩ := found
  rw [← folded] at unlike
  rcases List.append_eq_append_iff.mp split with ⟨more, rfl, -⟩ | ⟨more, rfl, -⟩
  · exact unlike.2 ⟨more.map foldCase, List.map_append.symm⟩
  · exact unlike.1 ⟨more.map foldCase, List.map_append.symm⟩

theorem marked_marker (keyword : String) (member : keyword ∈ keywords) (front out : List Char)
    (suffix : front <:+ marker) (nonempty : front ≠ []) :
    marked keyword.toList (front ++ out) = none := by
  have apart : ∀ keyword ∈ keywords, ∀ front ∈ marker.tails, front ≠ [] →
      ¬keyword.toList <+: front.map foldCase ∧ ¬front.map foldCase <+: keyword.toList := by
    decide +kernel
  exact marked_unlike keyword.toList front out
    (apart keyword member front ((List.mem_tails _ _).mpr suffix) nonempty)

theorem suffix_append_cases (tail front back : List Char) (suffix : tail <:+ front ++ back) :
    tail <:+ back ∨ ∃ start, start <:+ front ∧ start ≠ [] ∧ tail = start ++ back := by
  obtain ⟨before, same⟩ := suffix
  rcases List.append_eq_append_iff.mp same with ⟨start, split, rest⟩ | ⟨more, -, rest⟩
  · by_cases empty : start = []
    · rw [empty] at rest
      exact .inl (rest ▸ List.suffix_rfl)
    · exact .inr ⟨start, ⟨before, split.symm⟩, empty, rest⟩
  · exact .inl ⟨more, rest.symm⟩

theorem clear_of_hides (keyword : String) (member : keyword ∈ keywords) (text out : List Char)
    (hides : Hides (fun tail => marked keyword.toList tail = none) text out) :
    Pattern.Clear (marked keyword.toList) out := by
  induction hides with
  | nil =>
      intro tail suffix
      rw [List.suffix_nil.mp suffix]
      exact marked_nil keyword.toList
  | keep c text out stays rest ih =>
      intro tail suffix
      rcases List.suffix_cons_iff.mp suffix with rfl | later
      · by_contra found
        have before := marked_of_hides _ keyword member _ _ (Hides.keep c text out stays rest)
          (Option.isSome_iff_ne_none.mpr found)
        rw [stays] at before
        cases before
      · exact ih tail later
  | hide c secret text out visible rest ih =>
      intro tail suffix
      rcases suffix_append_cases tail marker out suffix with later | ⟨start, inside, nonempty, rfl⟩
      · exact ih tail later
      · exact marked_marker keyword member start out inside nonempty

theorem visible_of_lower (c : Char) (lower : isLower (foldCase c)) : isBlank c = false := by
  rw [foldCase] at lower
  split at lower
  · rename_i same
    rw [same]
    decide
  · split at lower
    · rename_i same
      rw [same]
      decide
    · have value : c.val.toNat = c.toNat := rfl
      apply isBlank_of_visible
      rw [Char.toLower] at lower
      split at lower
      · rename_i upper
        simp only [ge_iff_le, UInt32.le_iff_toNat_le, Char.reduceVal, UInt32.reduceToNat] at upper
        simp only [isVisible, Bool.and_eq_true, decide_eq_true_eq]
        omega
      · simp only [isLower, Bool.and_eq_true, decide_eq_true_eq, Char.le_def,
          UInt32.le_iff_toNat_le, Char.reduceVal, UInt32.reduceToNat] at lower
        simp only [isVisible, Bool.and_eq_true, decide_eq_true_eq]
        omega

theorem of_marked (keyword : String) (member : keyword ∈ keywords) (c : Char) (rest : List Char)
    (found : Finding) (finds : marked keyword.toList (c :: rest) = some found) :
    found.replacement = marker ∧ isBlank c = false := by
  have letters : ∀ keyword ∈ keywords, keyword.toList.head?.any isLower := by decide
  have lower := letters keyword member
  constructor
  · simp only [marked, Option.bind_eq_bind, Option.bind_eq_some_iff] at finds
    obtain ⟨tail, -, n, -, same⟩ := finds
    cases same
    rfl
  · have some : (marked keyword.toList (c :: rest)).isSome := by rw [finds]; rfl
    obtain ⟨word, tail, split, folded, -⟩ := (isSome_marked_iff_hasValue _ _).mp some
    rw [← folded] at lower
    cases word with
    | nil => cases lower
    | cons d word =>
        rw [List.cons_append, List.cons.injEq] at split
        rw [split.1]
        exact visible_of_lower d (by simpa using lower)

theorem hides_of_marked (kept : List Char → Prop) (keyword : String) (member : keyword ∈ keywords)
    (c : Char) (rest out : List Char) (found : Finding)
    (finds : marked keyword.toList (c :: rest) = some found)
    (hides : Hides kept (rest.drop (found.length - 1)) out) :
    Hides kept (c :: rest) (found.replacement ++ out) := by
  obtain ⟨replaced, visible⟩ := of_marked keyword member c rest found finds
  have hides := Hides.hide c (rest.take (found.length - 1)) _ _ visible hides
  rwa [List.take_append_drop, ← replaced] at hides

theorem hides_marked (keyword : String) (member : keyword ∈ keywords) (text : List Char) :
    Hides (fun tail => marked keyword.toList tail = none) text
      (Pattern.replaceAll (marked keyword.toList) text) := by
  fun_induction Pattern.replaceAll (marked keyword.toList) text with
  | case1 => exact .nil
  | case2 c rest found finds ih => exact hides_of_marked _ keyword member c rest _ found finds ih
  | case3 c rest none ih => exact .keep c rest _ none ih

theorem drop_of_append (c : Char) (rest front back : List Char) (split : c :: rest = front ++ back)
    (nonempty : front ≠ []) : rest.drop (front.length - 1) = back := by
  obtain ⟨d, front, rfl⟩ := List.exists_cons_of_ne_nil nonempty
  rw [List.cons_append, List.cons.injEq] at split
  rw [split.2, List.length_cons, Nat.add_sub_cancel, List.drop_left]

theorem visible_of_isUserChar (c : Char) (user : isUserChar c) : isBlank c = false := by
  simp only [isUserChar, Bool.not_eq_true', Bool.or_eq_false_iff] at user
  exact user.1.1.2

theorem hides_of_credentials (kept : List Char → Prop) (c : Char) (rest out : List Char)
    (found : Finding) (finds : credentials (c :: rest) = some found)
    (stays : ∀ tail, tail <:+ c :: rest → kept tail)
    (hides : Hides kept (rest.drop (found.length - 1)) out) :
    Hides kept (c :: rest) (found.replacement ++ out) := by
  obtain ⟨scheme, user, password, after, spelled, split, rfl⟩ :=
    (credentials_eq_some_iff _ _).mp finds
  have front : (scheme ++ "://".toList ++ user ++ ':' :: password ++ ['@']).length =
      scheme.length + 3 + (user.length + password.length + 2) := by
    simp
    omega
  have dropped := drop_of_append c rest (scheme ++ "://".toList ++ user ++ ':' :: password ++ ['@'])
    after (by simpa using split) (by simp)
  rw [front] at dropped
  rw [dropped] at hides
  rw [split] at stays ⊢
  obtain ⟨d, user, rfl⟩ := List.exists_cons_of_ne_nil spelled.named
  have visible := visible_of_isUserChar d (spelled.user d List.mem_cons_self)
  have at_ : Hides kept ('@' :: after) ('@' :: out) :=
    .keep '@' after out (stays _ ⟨scheme ++ "://".toList ++ d :: user ++ ':' :: password, by simp⟩)
      hides
  have hidden := Hides.hide d (user ++ ':' :: password) _ _ visible at_
  have whole := Hides.keep_append (scheme ++ "://".toList) _ _
    (fun tail suffix => stays tail (by simpa using suffix)) hidden
  simpa using whole

theorem hides_replaceAll (kept : List Char → Prop) (p : Pattern) (member : p ∈ patterns)
    (text : List Char) (stays : ∀ tail, tail <:+ text → kept tail) :
    Hides kept text (p.replaceAll text) := by
  fun_induction p.replaceAll text with
  | case1 => exact .nil
  | case2 c rest found finds ih =>
      have later := ih fun tail suffix =>
        stays tail ((suffix.trans (List.drop_suffix _ rest)).trans (List.suffix_cons c rest))
      rcases List.mem_append.mp member with marks | last
      · obtain ⟨keyword, listed, rfl⟩ := List.mem_map.mp marks
        exact hides_of_marked kept keyword listed c rest _ found finds later
      · rw [List.mem_singleton.mp last] at finds
        exact hides_of_credentials kept c rest _ found finds stays later
  | case3 c rest none ih =>
      exact .keep c rest _ (stays _ List.suffix_rfl)
        (ih fun tail suffix => stays tail (suffix.trans (List.suffix_cons c rest)))

theorem clear_marked (keyword : String) (member : keyword ∈ keywords) (text : List Char) :
    Pattern.Clear (marked keyword.toList) (Pattern.replaceAll (marked keyword.toList) text) :=
  clear_of_hides keyword member text _ (hides_marked keyword member text)

theorem clear_marked_replaceAll (keyword : String) (member : keyword ∈ keywords) (p : Pattern)
    (listed : p ∈ patterns) (text : List Char)
    (clear : Pattern.Clear (marked keyword.toList) text) :
    Pattern.Clear (marked keyword.toList) (p.replaceAll text) :=
  clear_of_hides keyword member text _ (hides_replaceAll _ p listed text clear)

theorem userinfo_not_marker (user password rest out : List Char) (users : ∀ c ∈ user, isUserChar c)
    (same : user ++ ':' :: (password ++ '@' :: rest) = marker ++ '@' :: out) : False := by
  have signs := of_mem (isUserChar ·) marker (by decide)
  obtain ⟨named, -⟩ := Url.span_stop isUserChar user (':' :: (password ++ '@' :: rest)) users rfl
  obtain ⟨marked, -⟩ := Url.span_stop isUserChar marker ('@' :: out) signs rfl
  rw [same, marked] at named
  rw [← named] at same
  have next := List.append_cancel_left same
  cases next

theorem slash_of_spelled (scheme user password : List Char) (spelled : Spelled scheme user password) :
    '/' ∉ user ++ ':' :: (password ++ ['@']) := by
  rw [List.mem_append, List.mem_cons, List.mem_append, List.mem_singleton]
  rintro (user | colon | password | at_)
  · exact absurd (spelled.user '/' user) (by decide)
  · cases colon
  · exact absurd (spelled.password '/' password) (by decide)
  · cases at_

theorem prefix_of_hidden (found front out : List Char) (credentials : IsCredentials found)
    (starts : found <+: front ++ ("://".toList ++ (marker ++ '@' :: out))) :
    found <+: front ++ [':'] := by
  obtain ⟨scheme, user, password, spelled, rfl⟩ := credentials
  obtain ⟨rest, same⟩ := starts
  have same : scheme ++ ("://".toList ++ (user ++ ':' :: (password ++ '@' :: rest))) =
      front ++ ("://".toList ++ (marker ++ '@' :: out)) := by simpa using same
  rcases List.append_eq_append_iff.mp same with ⟨more, rfl, shifted⟩ | ⟨more, rfl, shifted⟩
  · rcases more with _ | ⟨a, _ | ⟨b, _ | ⟨c, more⟩⟩⟩
    · exact (userinfo_not_marker user password rest out spelled.user (by simpa using shifted)).elim
    · simp at shifted
    · simp at shifted
    · obtain ⟨rfl, rfl, rfl, later⟩ : ':' = a ∧ '/' = b ∧ '/' = c ∧
          user ++ ':' :: (password ++ '@' :: rest) =
            (more ++ [':']) ++ '/' :: '/' :: (marker ++ '@' :: out) := by
        simpa using shifted
      have inside := prefix_of_sign _ (more ++ [':']) _ '/' (slash_of_spelled _ _ _ spelled)
        ⟨rest, by simpa using later⟩
      simpa [List.prefix_append_right_inj] using inside
  · cases more with
    | nil =>
        exact (userinfo_not_marker user password rest out spelled.user (by simpa using shifted.symm)).elim
    | cons c more =>
        obtain ⟨rfl, -⟩ : c = ':' ∧ _ := by simpa using shifted.symm
        exact absurd (spelled.scheme ':' (by simp)) (by decide)

theorem slash_of_credentials (found : List Char) (credentials : IsCredentials found) :
    '/' ∈ found := by
  obtain ⟨scheme, user, password, -, rfl⟩ := credentials
  simp

theorem replaceAll_credentials (text : List Char) :
    Pattern.replaceAll credentials text = text ∨ ∃ front after out,
      text = front ++ ("://".toList ++ after) ∧
        Pattern.replaceAll credentials text = front ++ ("://".toList ++ (marker ++ '@' :: out)) := by
  fun_induction Pattern.replaceAll credentials text with
  | case1 => exact .inl rfl
  | case2 c rest found finds ih =>
      obtain ⟨scheme, user, password, after, -, split, same⟩ := (credentials_eq_some_iff _ _).mp finds
      refine .inr ⟨scheme, _, Pattern.replaceAll credentials (rest.drop (found.length - 1)), split, ?_⟩
      simp [same]
  | case3 c rest none ih =>
      rcases ih with same | ⟨front, after, out, split, hidden⟩
      · exact .inl (congrArg (c :: ·) same)
      · exact .inr ⟨c :: front, after, out, congrArg (c :: ·) split, congrArg (c :: ·) hidden⟩

theorem credentials_hidden (scheme tail out : List Char) (schemed : ∀ c ∈ scheme, isSchemeChar c)
    (suffix : tail <:+ scheme ++ ("://".toList ++ marker ++ ['@'])) (nonempty : tail ≠ []) :
    credentials (tail ++ out) = none := by
  rcases suffix_append_cases tail _ _ suffix with later | ⟨start, inside, -, rfl⟩
  · have signs := of_mem (isLower · = false) ("://".toList ++ marker ++ ['@']) (by decide)
    obtain ⟨c, tail, rfl⟩ := List.exists_cons_of_ne_nil nonempty
    have lower := signs c (later.subset List.mem_cons_self)
    rw [credentials, if_neg (by simpa using lower)]
  · by_contra some
    rw [← ne_eq, Option.ne_none_iff_isSome, isSome_credentials_iff] at some
    obtain ⟨found, starts, spelled⟩ := some
    have within := prefix_of_hidden found start out spelled (by simpa using starts)
    have slash := within.subset (slash_of_credentials found spelled)
    rw [List.mem_append, List.mem_singleton] at slash
    rcases slash with slash | colon
    · exact absurd (schemed '/' (inside.subset slash)) (by decide)
    · cases colon

theorem clear_credentials (text : List Char) :
    Pattern.Clear credentials (Pattern.replaceAll credentials text) := by
  fun_induction Pattern.replaceAll credentials text with
  | case1 =>
      intro tail suffix
      rw [List.suffix_nil.mp suffix]
      rfl
  | case2 c rest found finds ih =>
      obtain ⟨scheme, user, password, after, spelled, -, rfl⟩ := (credentials_eq_some_iff _ _).mp finds
      intro tail suffix
      rcases suffix_append_cases tail _ _ suffix with later | ⟨start, inside, nonempty, rfl⟩
      · exact ih tail later
      · exact credentials_hidden scheme start _ spelled.scheme (by simpa using inside) nonempty
  | case3 c rest none ih =>
      intro tail suffix
      rcases List.suffix_cons_iff.mp suffix with rfl | later
      · rcases replaceAll_credentials rest with same | ⟨front, after, out, rfl, hidden⟩
        · rw [same, none]
        · by_contra some
          rw [hidden, ← ne_eq, Option.ne_none_iff_isSome, isSome_credentials_iff] at some
          obtain ⟨found, starts, spelled⟩ := some
          have within := prefix_of_hidden found (c :: front) out spelled starts
          have before : (credentials (c :: (front ++ ("://".toList ++ after)))).isSome :=
            (isSome_credentials_iff _).mpr
              ⟨found, within.trans ⟨'/' :: '/' :: after, by simp⟩, spelled⟩
          rw [none] at before
          cases before
      · exact ih tail later

theorem clear_foldl (p : Pattern) (all : List Pattern)
    (stays : ∀ q ∈ all, ∀ text, p.Clear text → p.Clear (q.replaceAll text)) (text : List Char)
    (clear : p.Clear text) : p.Clear (all.foldl (fun text q => q.replaceAll text) text) := by
  induction all generalizing text with
  | nil => exact clear
  | cons q rest ih =>
      exact ih (fun r member => stays r (List.mem_cons_of_mem q member)) _
        (stays q List.mem_cons_self text clear)

/-- Patterns that each leave a text clear, and none of which spoils it for those before it, together
leave it clear. -/
theorem all_clear_foldl (all : List Pattern)
    (self : ∀ p ∈ all, ∀ text, p.Clear (p.replaceAll text))
    (later : all.Pairwise fun p q => ∀ text, p.Clear text → p.Clear (q.replaceAll text))
    (text : List Char) :
    ∀ p ∈ all, p.Clear (all.foldl (fun text q => q.replaceAll text) text) := by
  induction all generalizing text with
  | nil => exact fun p member => absurd member List.not_mem_nil
  | cons q rest ih =>
      rcases List.pairwise_cons.mp later with ⟨first, later⟩
      intro p member
      rcases List.mem_cons.mp member with rfl | member
      · exact clear_foldl p rest first _ (self p List.mem_cons_self text)
      · exact ih (fun r member => self r (List.mem_cons_of_mem q member)) later _ p member

theorem clear_redactChars (text : List Char) : ∀ p ∈ patterns, p.Clear (redactChars text) := by
  apply all_clear_foldl
  · intro p member text
    rcases List.mem_append.mp member with marks | last
    · obtain ⟨keyword, listed, rfl⟩ := List.mem_map.mp marks
      exact clear_marked keyword listed text
    · rw [List.mem_singleton.mp last]
      exact clear_credentials text
  · have stays (keyword : String) (listed : keyword ∈ keywords) (q : Pattern) (member : q ∈ patterns) :=
      clear_marked_replaceAll keyword listed q member
    refine List.pairwise_append.mpr ⟨?_, List.pairwise_singleton _ _, ?_⟩
    · refine List.pairwise_map.mpr (List.pairwise_of_forall_mem_list ?_)
      intro first before second after
      exact stays first before _ (List.mem_append_left _ (List.mem_map_of_mem after))
    · intro p marks q last
      obtain ⟨keyword, listed, rfl⟩ := List.mem_map.mp marks
      exact stays keyword listed q (List.mem_append_right _ last)

theorem redactChars_of_clear (text : List Char) (clear : ∀ p ∈ patterns, p.Clear text) :
    redactChars text = text := by
  rw [redactChars]
  generalize patterns = all at clear
  induction all with
  | nil => rfl
  | cons p rest ih =>
      rw [List.foldl_cons, p.replaceAll_of_clear text (clear p List.mem_cons_self)]
      exact ih fun q member => clear q (List.mem_cons_of_mem p member)

end Redaction

open Redaction

/-- Nothing that a pattern looks for is anywhere in a redacted message, and to redact it again
changes nothing. -/
theorem redact_normal (message : String) :
    (∀ found, found <:+: (redact message).toList →
      (∀ keyword ∈ keywords, ¬IsMarked keyword.toList found) ∧ ¬IsCredentials found) ∧
      redact (redact message) = redact message := by
  have clear := clear_redactChars message.toList
  have chars : (redact message).toList = redactChars message.toList := String.toList_ofList
  constructor
  · rintro found ⟨before, after, whole⟩
    rw [chars] at whole
    have tail : found ++ after <:+ redactChars message.toList := ⟨before, by simp [← whole]⟩
    constructor
    · intro keyword listed marks
      have finds := (isSome_marked_iff keyword.toList (found ++ after)).mpr ⟨found, ⟨after, rfl⟩, marks⟩
      rw [clear _ (List.mem_append_left _ (List.mem_map_of_mem listed)) _ tail] at finds
      cases finds
    · intro spelled
      have finds := (isSome_credentials_iff (found ++ after)).mpr ⟨found, ⟨after, rfl⟩, spelled⟩
      rw [clear credentials (List.mem_append_right _ (List.mem_singleton.mpr rfl)) _ tail] at finds
      cases finds
  · rw [redact, chars, redactChars_of_clear _ clear]
    rfl

end ProxyCheck
