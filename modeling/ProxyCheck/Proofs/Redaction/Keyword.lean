import ProxyCheck.Proofs.Redaction.Userinfo

/-! When the secret behind a keyword goes out of a text. The patterns go over the text one after the
other, and one that takes the keyword for the value of another keyword leaves the secret behind. -/
namespace ProxyCheck.Redaction

def plainKeywords : List String :=
  ["bearer", "token", "password"]

/-- A word that is a keyword in some case. -/
structure Spoken (word : List Char) (keyword : String) : Prop where
  listed : keyword ∈ plainKeywords
  folded : word.map foldCase = keyword.toList

structure IsNumeral (secret : List Char) : Prop where
  nonempty : secret ≠ []
  digits : ∀ c ∈ secret, c.isDigit

structure Separates (separators : List Char) : Prop where
  nonempty : separators ≠ []
  all : ∀ c ∈ separators, isSeparator c

theorem mem_keywords_of_plain (keyword : String) (plain : keyword ∈ plainKeywords) :
    keyword ∈ keywords := by
  have all : ∀ keyword ∈ plainKeywords, keyword ∈ keywords := by decide
  exact all keyword plain

theorem eq_of_suffix (keyword other : String) (plain : keyword ∈ plainKeywords)
    (member : other ∈ keywords)
    (suffix : keyword.toList <:+ other.toList ∨ other.toList <:+ keyword.toList) : other = keyword := by
  have all : ∀ keyword ∈ plainKeywords, ∀ other ∈ keywords,
      keyword.toList <:+ other.toList ∨ other.toList <:+ keyword.toList → other = keyword := by
    decide
  exact all keyword plain other member suffix

theorem foldCase_separator (c : Char) (separator : isSeparator c) : foldCase c = c := by
  rw [isSeparator, Bool.or_eq_true, beq_iff_eq] at separator
  rcases separator with rfl | blank
  · decide
  · have upper : c.toLower = c := by
      rw [Char.toLower]
      split
      · rename_i upper
        simp only [isBlank, Bool.or_eq_true, Bool.and_eq_true, beq_iff_eq, decide_eq_true_eq] at blank
        simp only [ge_iff_le, UInt32.le_iff_toNat_le, Char.reduceVal, UInt32.reduceToNat] at upper
        have value : c.val.toNat = c.toNat := rfl
        omega
      · rfl
    have long : c ≠ 'ſ' := by
      rintro rfl
      exact absurd blank (by decide)
    have kelvin : c ≠ '\u212A' := by
      rintro rfl
      exact absurd blank (by decide)
    rw [foldCase, if_neg long, if_neg kelvin, upper]

theorem lower_of_separator (c : Char) (separator : isSeparator c) : isLower (foldCase c) = false := by
  by_contra lower
  rw [Bool.not_eq_false] at lower
  have colon := colon_of_isSeparator c separator (visible_of_lower c lower)
  rw [colon] at lower
  exact absurd lower (by decide)

theorem lower_of_isDigit (c : Char) (digit : c.isDigit) : isLower (foldCase c) = false :=
  of_ascii (fun c => c.isDigit → isLower (foldCase c) = false) (by decide +kernel) c
    (Host.ascii_of_isDigit c digit) digit

theorem separator_of_isDigit (c : Char) (digit : c.isDigit) : isSeparator c = false :=
  of_ascii (fun c => c.isDigit → isSeparator c = false) (by decide +kernel) c
    (Host.ascii_of_isDigit c digit) digit

theorem lower_of_isLower (c : Char) (lower : isLower c) : isLower (foldCase c) := by
  have ascii : c.toNat < 0x80 := by
    simp only [isLower, Bool.and_eq_true, decide_eq_true_eq, Char.le_def,
      UInt32.le_iff_toNat_le, Char.reduceVal, UInt32.reduceToNat] at lower
    have value : c.val.toNat = c.toNat := rfl
    omega
  exact of_ascii (fun c => isLower c → isLower (foldCase c)) (by decide +kernel) c ascii lower

theorem separator_of_word (keyword : String) (member : keyword ∈ keywords) (word : List Char)
    (folded : word.map foldCase = keyword.toList) : ∀ c ∈ word, isSeparator c = false := by
  have apart : ∀ keyword ∈ keywords, keyword.toList.all fun c => isSeparator c = false := by
    decide
  intro c inside
  by_contra separator
  rw [Bool.not_eq_false] at separator
  have letter : foldCase c ∈ keyword.toList := folded ▸ List.mem_map_of_mem inside
  rw [foldCase_separator c separator] at letter
  exact absurd separator (by simpa using of_mem (isSeparator · = false) _ (apart keyword member) c letter)

theorem pattern_of_head (p : Pattern) (listed : p ∈ patterns) (c : Char) (rest : List Char)
    (other : isLower (foldCase c) = false) : p (c :: rest) = none := by
  rcases List.mem_append.mp listed with marks | last
  · obtain ⟨keyword, member, rfl⟩ := List.mem_map.mp marks
    have letters : ∀ keyword ∈ keywords, keyword.toList.head?.any isLower := by decide
    have lower := letters keyword member
    by_contra finds
    rw [← ne_eq, Option.ne_none_iff_isSome, isSome_marked_iff_hasValue] at finds
    obtain ⟨word, tail, split, folded, -⟩ := finds
    rw [← folded] at lower
    cases word with
    | nil => cases lower
    | cons d word =>
        rw [List.cons_append, List.cons.injEq] at split
        rw [← split.1] at lower
        simp [other] at lower
  · have lower : ¬isLower c := fun lower => by
      rw [lower_of_isLower c lower] at other
      cases other
    rw [List.mem_singleton.mp last, credentials, if_neg (by simpa using lower)]

theorem mem_patterns (keyword : String) (member : keyword ∈ keywords) :
    marked keyword.toList ∈ patterns :=
  List.mem_append_left _ (List.mem_map_of_mem member)

theorem replaceAll_behind (p : Pattern) (listed : p ∈ patterns) (separators secret after : List Char)
    (all : ∀ c ∈ separators, isSeparator c) (numeral : IsNumeral secret) :
    p.replaceAll (separators ++ (secret ++ after)) = separators ++ (secret ++ p.replaceAll after) := by
  have nothing : ∀ start, start <:+ separators ++ secret → start ≠ [] → p (start ++ after) = none := by
    intro start suffix nonempty
    obtain ⟨c, start, rfl⟩ := List.exists_cons_of_ne_nil nonempty
    refine pattern_of_head p listed c (start ++ after) ?_
    rcases List.mem_append.mp (suffix.subset List.mem_cons_self) with separator | digit
    · exact lower_of_separator c (all c separator)
    · exact lower_of_isDigit c (numeral.digits c digit)
  have passed := replaceAll_passing p (separators ++ secret) after nothing
  rwa [List.append_assoc, List.append_assoc] at passed

theorem head_replaceAll (p : Pattern) (listed : p ∈ patterns) (text : List Char)
    (blank : text.head?.all isBlank) : (p.replaceAll text).head?.all isBlank := by
  cases text with
  | nil => rw [Pattern.replaceAll]; rfl
  | cons c rest =>
      have space : isBlank c := by simpa using blank
      have separator : isSeparator c := by simp [isSeparator, space]
      rw [replaceAll_of_none p c rest (pattern_of_head p listed c rest (lower_of_separator c separator))]
      simpa using space

theorem unseparated_of_word (solid tail marks rest : List Char)
    (solids : ∀ c ∈ solid, isSeparator c = false) (whole : ∀ c ∈ marks, isSeparator c = false)
    (stop : tail.head?.all isSeparator) (other : marks ≠ solid)
    (same : solid ++ tail = marks ++ rest) : rest.head?.all fun c => !isSeparator c := by
  rcases List.append_eq_append_iff.mp same with ⟨gap, rfl, rfl⟩ | ⟨gap, rfl, rfl⟩
  · cases gap with
    | nil => simp at other
    | cons c gap =>
        have separator : isSeparator c := by simpa using stop
        rw [whole c (by simp)] at separator
        cases separator
  · cases gap with
    | nil => simp at other
    | cons c gap => simp [solids c (by simp)]

def Follows (word tail : List Char) : Prop :=
  ∃ rest, tail = word ++ rest ∧ rest.head?.all isSeparator

theorem Spoken.solid {word : List Char} {keyword : String} (spoken : Spoken word keyword) :
    ∀ c ∈ word, isSeparator c = false :=
  separator_of_word keyword (mem_keywords_of_plain keyword spoken.listed) word spoken.folded

theorem Spoken.nonempty {word : List Char} {keyword : String} (spoken : Spoken word keyword) :
    word ≠ [] := by
  rintro rfl
  have letters : ∀ keyword ∈ plainKeywords, keyword.toList ≠ [] := by decide
  exact letters keyword spoken.listed spoken.folded.symm

theorem apart_of_spoken (keyword other : String) (word front : List Char)
    (spoken : Spoken word keyword) (member : other ∈ keywords) (nonempty : front ≠ []) :
    Apart other.toList front (Follows word) := by
  constructor
  · rintro tail ⟨rest, rfl, -⟩
    have solids := spoken.solid
    obtain ⟨c, word, rfl⟩ := List.exists_cons_of_ne_nil spoken.nonempty
    simp [solids c List.mem_cons_self]
  · rintro tail ⟨back, rfl, stop⟩ marks rest same folded longer
    have whole := separator_of_word other member marks folded
    rcases List.append_eq_append_iff.mp same with ⟨more, rfl, split⟩ | ⟨gap, rfl, -⟩
    · refine unseparated_of_word word back more rest spoken.solid
        (fun c inside => whole c (List.mem_append_right front inside)) stop ?_ split
      -- A longer keyword would have this one at its end.
      rintro rfl
      rw [List.map_append, spoken.folded] at folded
      have same := eq_of_suffix keyword other spoken.listed member (.inl ⟨_, folded⟩)
      rw [same] at folded
      have count := congrArg List.length folded
      rw [List.length_append, List.length_map] at count
      exact nonempty (List.length_eq_zero_iff.mp (by omega))
    · rw [List.length_append] at longer
      omega

theorem replaceAll_word (keyword other : String) (word tail : List Char) (spoken : Spoken word keyword)
    (member : other ∈ keywords) (differ : other ≠ keyword) (stop : tail.head?.all isSeparator) :
    Pattern.replaceAll (marked other.toList) (word ++ tail) =
      word ++ Pattern.replaceAll (marked other.toList) tail := by
  refine replaceAll_passing _ word tail fun start suffix _ =>
    marked_of_unseparated _ _ fun marks rest same folded => ?_
  refine unseparated_of_word start tail marks rest
    (fun c inside => spoken.solid c (suffix.subset inside))
    (separator_of_word other member marks folded) stop ?_ same
  rintro rfl
  have shorter := suffix.map foldCase
  rw [folded, spoken.folded] at shorter
  exact differ (eq_of_suffix keyword other spoken.listed member (.inr shorter))

theorem replaceAll_alone (keyword other : String) (word : List Char) (spoken : Spoken word keyword) :
    Pattern.replaceAll (marked other.toList) word = word := by
  have passed := replaceAll_passing (marked other.toList) word [] fun start suffix _ =>
    marked_of_unseparated _ _ fun marks rest same folded => by
      cases rest with
      | nil => rfl
      | cons c rest =>
          have inside : c ∈ start := by
            rw [List.append_nil] at same
            simp [same]
          simp [spoken.solid c (suffix.subset inside)]
  rwa [List.append_nil, Pattern.replaceAll, List.append_nil] at passed

theorem replaceAll_own (keyword : String) (word separators secret after : List Char)
    (spoken : Spoken word keyword) (separates : Separates separators) (numeral : IsNumeral secret)
    (ends : after.head?.all isBlank) :
    Pattern.replaceAll (marked keyword.toList) (word ++ (separators ++ (secret ++ after))) =
      marker ++ Pattern.replaceAll (marked keyword.toList) after := by
  have starts : (secret ++ after).head?.any fun c => !isSeparator c := by
    obtain ⟨c, secret, rfl⟩ := List.exists_cons_of_ne_nil numeral.nonempty
    simp [separator_of_isDigit c (numeral.digits c List.mem_cons_self)]
  have visible : ∀ c ∈ secret, isBlank c = false := fun c inside =>
    blank_of_isSeparator c (separator_of_isDigit c (numeral.digits c inside))
  have value : (secret ++ after).takeWhile (fun c => !isBlank c) = secret := by
    refine (Url.span_stop (fun c => !isBlank c) secret after (fun c inside => by
      simp [visible c inside]) ?_).1
    cases after with
    | nil => rfl
    | cons c after => simpa using ends
  have finds := marked_value keyword.toList word separators (secret ++ after) spoken.folded
    separates.all separates.nonempty starts
  rw [value] at finds
  have taken : word ++ (separators ++ (secret ++ after)) = (word ++ (separators ++ secret)) ++ after := by
    simp
  rw [taken] at finds ⊢
  exact replaceAll_of_found _ _ after marker (by simp [separates.nonempty]) finds

theorem bracket_not_in_word (keyword : String) (member : keyword ∈ keywords) (word : List Char)
    (folded : word.map foldCase = keyword.toList) : ']' ∉ word := by
  have absent : ∀ keyword ∈ keywords, foldCase ']' ∉ keyword.toList := by decide
  intro inside
  exact absent keyword member (folded ▸ List.mem_map_of_mem inside)

theorem replaceAll_bracket (keyword : String) (member : keyword ∈ keywords) (front : List Char) :
    ∃ out, ∀ tail, tail.head?.all isBlank →
      Pattern.replaceAll (marked keyword.toList) (front ++ ']' :: tail) =
        out ++ ']' :: Pattern.replaceAll (marked keyword.toList) tail := by
  have apart (start : List Char) : Apart keyword.toList start fun text =>
      ∃ tail, text = ']' :: tail ∧ tail.head?.all isBlank := by
    constructor
    · rintro text ⟨tail, rfl, -⟩
      rfl
    · rintro text ⟨tail, rfl, -⟩ marks rest same folded longer
      have absent := bracket_not_in_word keyword member marks folded
      rcases List.append_eq_append_iff.mp same with ⟨more, rfl, split⟩ | ⟨gap, rfl, -⟩
      · cases more with
        | nil => simp at longer
        | cons c more =>
            obtain ⟨rfl, -⟩ : ']' = c ∧ _ := by simpa using split
            simp at absent
      · rw [List.length_append] at longer
        omega
  have letter : isLower (foldCase ']') = false := by decide
  rcases replaceAll_front keyword.toList front [] _ nofun
    (fun start _ _ => verdict _ start _ (apart start)) with ⟨out, stays⟩ | ⟨out, reaches⟩
  · refine ⟨out, fun tail blank => (stays _ ⟨tail, rfl, blank⟩).trans ?_⟩
    rw [replaceAll_of_none _ ']' tail (pattern_of_head _ (mem_patterns keyword member) _ _ letter)]
    rfl
  · refine ⟨out ++ "[REDACTED".toList, fun tail blank => (reaches _ ⟨tail, rfl, blank⟩).trans ?_⟩
    have after := afterValue_append [']'] tail (of_mem (isBlank · = false) [']'] (by decide))
    rw [afterValue_of_blank tail blank] at after
    rw [show ']' :: tail = [']'] ++ tail from rfl, after, List.append_assoc]
    rfl

theorem blank_append (gap rest : List Char) (blank : gap.head?.any isBlank) :
    (gap ++ rest).head?.all isBlank := by
  cases gap with
  | nil => cases blank
  | cons c gap => simpa using blank

/-- Texts, one for each secret, in which the secret has nothing but separators before it. -/
def Bare (texts : List Char → List Char) : Prop :=
  ∃ front gap back, gap.head?.any isBlank ∧ (∀ c ∈ gap, isSeparator c) ∧
    ∀ secret, IsNumeral secret → texts secret = front ++ ']' :: (gap ++ (secret ++ back))

theorem bare_marked (keyword : String) (member : keyword ∈ keywords)
    (texts : List Char → List Char) (bare : Bare texts) :
    Bare fun secret => Pattern.replaceAll (marked keyword.toList) (texts secret) := by
  obtain ⟨front, gap, back, blank, all, same⟩ := bare
  obtain ⟨out, leaves⟩ := replaceAll_bracket keyword member front
  refine ⟨out, gap, Pattern.replaceAll (marked keyword.toList) back, blank, all,
    fun secret numeral => ?_⟩
  simp only [same secret numeral]
  rw [leaves _ (blank_append gap _ blank),
    replaceAll_behind _ (mem_patterns keyword member) gap secret back all numeral]

/-- Of a text with a keyword at its end, and of texts that go on with each secret: the keyword has
been taken for a value, together with the secret where no blank is between them. -/
inductive Taken (separators short : List Char) (texts : List Char → List Char) : Prop where
  | whole (colons : afterValue separators = []) (out : List Char)
      (same : ∀ secret, IsNumeral secret → texts secret = out)
  | short (spaced : afterValue separators ≠ []) (front : List Char) (split : short = front ++ [']'])
      (bare : Bare texts)

theorem taken_marked (keyword : String) (member : keyword ∈ keywords) (separators short : List Char)
    (texts : List Char → List Char) (taken : Taken separators short texts) :
    Taken separators (Pattern.replaceAll (marked keyword.toList) short) fun secret =>
      Pattern.replaceAll (marked keyword.toList) (texts secret) := by
  cases taken with
  | whole colons out same => exact .whole colons _ fun secret numeral => congrArg _ (same secret numeral)
  | short spaced front split bare =>
      obtain ⟨out, leaves⟩ := replaceAll_bracket keyword member front
      have ends := leaves [] rfl
      rw [Pattern.replaceAll] at ends
      rw [split]
      exact .short spaced out ends (bare_marked keyword member texts bare)

theorem afterValue_word (keyword : String) (word separators secret back : List Char)
    (spoken : Spoken word keyword) (numeral : IsNumeral secret) (ends : back.head?.all isBlank) :
    afterValue (word ++ (separators ++ (secret ++ back))) =
      if afterValue separators = [] then back else afterValue separators ++ (secret ++ back) := by
  rw [afterValue_append word _ fun c inside => blank_of_isSeparator c (spoken.solid c inside)]
  have whole := value_append_afterValue separators
  have visible : ∀ c ∈ separators.takeWhile fun c => !isBlank c, isBlank c = false :=
    fun c member => by simpa using List.mem_takeWhile_imp member
  split
  · rename_i colons
    rw [colons, List.append_nil] at whole
    rw [whole] at visible
    rw [afterValue_append separators _ visible, afterValue_append secret back fun c inside =>
      blank_of_isSeparator c (separator_of_isDigit c (numeral.digits c inside)),
      afterValue_of_blank back ends]
  · rename_i spaced
    calc afterValue (separators ++ (secret ++ back))
        = afterValue ((separators.takeWhile fun c => !isBlank c) ++
            (afterValue separators ++ (secret ++ back))) := by
          rw [← List.append_assoc _ (afterValue separators), whole]
      _ = afterValue (afterValue separators ++ (secret ++ back)) := afterValue_append _ _ visible
      _ = afterValue separators ++ (secret ++ back) :=
          afterValue_of_blank _ (blank_append _ _ (afterValue_starts separators spaced))

theorem follows_of_separates (word separators rest : List Char) (separates : Separates separators) :
    Follows word (word ++ (separators ++ rest)) := by
  refine ⟨_, rfl, ?_⟩
  obtain ⟨s, separators, rfl⟩ := List.exists_cons_of_ne_nil separates.nonempty
  simpa using separates.all s List.mem_cons_self

theorem taken_of_reach (keyword other : String) (member : other ∈ keywords)
    (word separators front back out : List Char) (texts : List Char → List Char)
    (spoken : Spoken word keyword) (separates : Separates separators) (ends : back.head?.all isBlank)
    (same : ∀ secret, IsNumeral secret →
      texts secret = front ++ (word ++ (separators ++ (secret ++ back))))
    (reaches : ∀ tail, Follows word tail →
      Pattern.replaceAll (marked other.toList) (front ++ tail) =
        out ++ (marker ++ Pattern.replaceAll (marked other.toList) (afterValue tail))) :
    Taken separators (Pattern.replaceAll (marked other.toList) (front ++ word)) fun secret =>
      Pattern.replaceAll (marked other.toList) (texts secret) := by
  have left (secret : List Char) (numeral : IsNumeral secret) :
      Pattern.replaceAll (marked other.toList) (texts secret) =
        out ++ (marker ++ Pattern.replaceAll (marked other.toList)
          (if afterValue separators = [] then back else afterValue separators ++ (secret ++ back))) := by
    rw [same secret numeral, reaches _ (follows_of_separates word separators _ separates),
      afterValue_word keyword word separators secret back spoken numeral ends]
  by_cases colons : afterValue separators = []
  · refine .whole colons (out ++ (marker ++ Pattern.replaceAll (marked other.toList) back))
      fun secret numeral => ?_
    rw [left secret numeral, if_pos colons]
  · have gaps : ∀ c ∈ afterValue separators, isSeparator c := fun c inside =>
      separates.all c ((List.dropWhile_suffix _).subset inside)
    refine .short colons (out ++ "[REDACTED".toList) ?_ ⟨out ++ "[REDACTED".toList,
      afterValue separators, Pattern.replaceAll (marked other.toList) back,
      afterValue_starts separators colons, gaps, fun secret numeral => ?_⟩
    · have visible : ∀ c ∈ word, isBlank c = false := fun c inside =>
        blank_of_isSeparator c (spoken.solid c inside)
      have after := afterValue_append word [] visible
      rw [List.append_nil] at after
      rw [reaches word ⟨[], by simp, rfl⟩, after, afterValue, List.dropWhile_nil, Pattern.replaceAll,
        List.append_nil, List.append_assoc]
      rfl
    · refine (left secret numeral).trans ?_
      rw [if_neg colons, replaceAll_behind _ (mem_patterns other member) _ secret back gaps numeral,
        List.append_assoc]
      rfl

/-- What the patterns before a keyword's own leave of the keyword: it stands where it stood, or it
has been taken. -/
inductive Fate (word separators short : List Char) (texts : List Char → List Char) : Prop where
  | stands (front back : List Char) (ends : back.head?.all isBlank) (split : short = front ++ word)
      (same : ∀ secret, IsNumeral secret →
        texts secret = front ++ (word ++ (separators ++ (secret ++ back))))
  | falls (taken : Taken separators short texts)

theorem fate_marked (keyword other : String) (member : other ∈ keywords) (differ : other ≠ keyword)
    (word separators short : List Char) (texts : List Char → List Char) (spoken : Spoken word keyword)
    (separates : Separates separators) (fate : Fate word separators short texts) :
    Fate word separators (Pattern.replaceAll (marked other.toList) short) fun secret =>
      Pattern.replaceAll (marked other.toList) (texts secret) := by
  cases fate with
  | stands front back ends split same =>
      rw [split]
      rcases replaceAll_front other.toList front [] (Follows word) nofun (fun start _ nonempty =>
        verdict _ start _ (apart_of_spoken keyword other word start spoken member nonempty)) with
        ⟨out, stays⟩ | ⟨out, reaches⟩
      · refine .stands out (Pattern.replaceAll (marked other.toList) back)
          (head_replaceAll _ (mem_patterns other member) back ends) ?_ fun secret numeral => ?_
        · exact (stays word ⟨[], by simp, rfl⟩).trans
            (congrArg (out ++ ·) (replaceAll_alone keyword other word spoken))
        · obtain ⟨rest, shape, stop⟩ := follows_of_separates word separators (secret ++ back) separates
          have tail := replaceAll_word keyword other word (separators ++ (secret ++ back)) spoken member
            differ (List.append_cancel_left shape ▸ stop)
          rw [replaceAll_behind _ (mem_patterns other member) separators secret back separates.all
            numeral] at tail
          simp only [same secret numeral]
          exact (stays _ ⟨rest, shape, stop⟩).trans (congrArg (out ++ ·) tail)
      · exact .falls (taken_of_reach keyword other member word separators front back out texts spoken
          separates ends same reaches)
  | falls taken => exact .falls (taken_marked other member separators short texts taken)

theorem fate_sweep (keyword : String) (all : List String)
    (others : ∀ other ∈ all, other ∈ keywords ∧ other ≠ keyword) (word separators short : List Char)
    (texts : List Char → List Char) (spoken : Spoken word keyword) (separates : Separates separators)
    (fate : Fate word separators short texts) :
    Fate word separators (sweep all short) fun secret => sweep all (texts secret) := by
  induction all generalizing short texts with
  | nil => exact fate
  | cons other all ih =>
      obtain ⟨member, differ⟩ := others other List.mem_cons_self
      exact ih (fun next later => others next (List.mem_cons_of_mem other later)) _ _
        (fate_marked keyword other member differ word separators short texts spoken separates fate)

theorem fate_own (keyword : String) (word separators short : List Char)
    (texts : List Char → List Char) (spoken : Spoken word keyword) (separates : Separates separators)
    (fate : Fate word separators short texts) :
    (word <:+ Pattern.replaceAll (marked keyword.toList) short ∧
      ∃ out, ∀ secret, IsNumeral secret →
        Pattern.replaceAll (marked keyword.toList) (texts secret) = out) ∨
      Taken separators (Pattern.replaceAll (marked keyword.toList) short) fun secret =>
        Pattern.replaceAll (marked keyword.toList) (texts secret) := by
  have member := mem_keywords_of_plain keyword spoken.listed
  cases fate with
  | stands front back ends split same =>
      rw [split]
      rcases replaceAll_front keyword.toList front [] (Follows word) nofun (fun start _ nonempty =>
        verdict _ start _ (apart_of_spoken keyword keyword word start spoken member nonempty)) with
        ⟨out, stays⟩ | ⟨out, reaches⟩
      · refine .inl ⟨⟨out, ?_⟩, out ++ (marker ++ Pattern.replaceAll (marked keyword.toList) back),
          fun secret numeral => ?_⟩
        · exact ((stays word ⟨[], by simp, rfl⟩).trans
            (congrArg (out ++ ·) (replaceAll_alone keyword keyword word spoken))).symm
        · rw [same secret numeral]
          exact (stays _ (follows_of_separates word separators _ separates)).trans (congrArg (out ++ ·)
            (replaceAll_own keyword word separators secret back spoken separates numeral ends))
      · exact .inr (taken_of_reach keyword keyword member word separators front back out texts spoken
          separates ends same reaches)
  | falls taken => exact .inr (taken_marked keyword member separators short texts taken)

theorem bare_sweep (all : List String) (members : ∀ other ∈ all, other ∈ keywords)
    (texts : List Char → List Char) (bare : Bare texts) : Bare fun secret => sweep all (texts secret) := by
  induction all generalizing texts with
  | nil => exact bare
  | cons other all ih =>
      exact ih (fun next later => members next (List.mem_cons_of_mem other later)) _
        (bare_marked other (members other List.mem_cons_self) texts bare)

theorem missed_of_bracket (keyword : String) (word front : List Char) (spoken : Spoken word keyword) :
    ¬word <:+ front ++ [']'] := by
  have absent := bracket_not_in_word keyword (mem_keywords_of_plain keyword spoken.listed) word
    spoken.folded
  rintro ⟨rest, same⟩
  rcases word.eq_nil_or_concat' with rfl | ⟨word, c, rfl⟩
  · exact spoken.nonempty rfl
  · rw [← List.append_assoc] at same
    have last : [c] = [']'] := (List.append_inj' same rfl).2
    rw [last] at absent
    simp at absent

theorem visible_of_credentials (found : List Char) (spelled : IsCredentials found) :
    ∀ c ∈ found, isBlank c = false := by
  obtain ⟨scheme, user, password, spelled, rfl⟩ := spelled
  intro c member
  simp only [List.mem_append, List.mem_cons, List.not_mem_nil, or_false] at member
  rcases member with inside | marks | inside | rfl | inside | rfl
  · exact visible_of_isSchemeChar c (spelled.scheme c inside)
  · exact of_mem (isBlank · = false) "://".toList (by decide) c marks
  · exact visible_of_isUserChar c (spelled.user c inside)
  · decide
  · have plain := spelled.password c inside
    simp only [isPasswordChar, Bool.not_eq_true', Bool.or_eq_false_iff] at plain
    exact plain.1.2
  · decide

theorem replaceAll_credentials_blank (front : List Char) : ∃ out, ∀ tail, tail.head?.any isBlank →
    Pattern.replaceAll credentials (front ++ tail) = out ++ Pattern.replaceAll credentials tail := by
  induction size : front.length using Nat.strongRecOn generalizing front with
  | ind n ih =>
      cases finds : credentials front with
      | some found =>
          obtain ⟨taken, rest, rfl, nonempty, finds⟩ := credentials_append front found finds
          have less : rest.length < n := by
            have positive := List.length_pos_of_ne_nil nonempty
            rw [← size, List.length_append]
            omega
          obtain ⟨out, same⟩ := ih rest.length less rest rfl
          refine ⟨found.replacement ++ out, fun tail blank => ?_⟩
          rw [List.append_assoc, replaceAll_of_found _ taken _ found.replacement nonempty (finds _),
            same tail blank, List.append_assoc]
      | none =>
          cases front with
          | nil => exact ⟨[], fun _ _ => rfl⟩
          | cons c front =>
              obtain ⟨out, same⟩ := ih front.length (by simp [← size]) front rfl
              refine ⟨c :: out, fun tail blank => ?_⟩
              have nothing : credentials (c :: (front ++ tail)) = none := by
                by_contra some
                rw [← ne_eq, Option.ne_none_iff_isSome, isSome_credentials_iff] at some
                obtain ⟨found, starts, spelled⟩ := some
                cases tail with
                | nil => cases blank
                | cons b tail =>
                    have absent : b ∉ found := fun inside => by
                      rw [List.head?_cons, Option.any_some,
                        visible_of_credentials found spelled b inside] at blank
                      cases blank
                    have within := prefix_of_sign found (c :: front) tail b absent starts
                    have here := (isSome_credentials_iff _).mpr ⟨found, within, spelled⟩
                    rw [finds] at here
                    cases here
              exact (replaceAll_of_none _ c _ nothing).trans (congrArg (c :: ·) (same tail blank))

theorem credentials_bare (texts : List Char → List Char) (bare : Bare texts) : ∃ front back,
    ∀ secret, IsNumeral secret →
      Pattern.replaceAll credentials (texts secret) = front ++ (secret ++ back) := by
  obtain ⟨front, gap, back, blank, all, same⟩ := bare
  obtain ⟨out, leaves⟩ := replaceAll_credentials_blank (front ++ [']'])
  have listed : credentials ∈ patterns := List.mem_append_right _ (List.mem_singleton_self credentials)
  refine ⟨out ++ gap, Pattern.replaceAll credentials back, fun secret numeral => ?_⟩
  have shape : texts secret = (front ++ [']']) ++ (gap ++ (secret ++ back)) := by
    simp [same secret numeral]
  have starts : (gap ++ (secret ++ back)).head?.any isBlank := by
    cases gap with
    | nil => cases blank
    | cons c gap => simpa using blank
  rw [shape, leaves _ starts, replaceAll_behind credentials listed gap secret back all numeral,
    List.append_assoc]

/-- The keyword at the end of a text still stands there when its own pattern, and those before it,
have gone over the text. -/
def Heeded (keyword : String) (before word : List Char) : Prop :=
  word <:+ sweep (keywords.takeWhile (· ≠ keyword) ++ [keyword]) (before ++ word)

theorem sweep_append (all others : List String) (text : List Char) :
    sweep (all ++ others) text = sweep others (sweep all text) :=
  List.foldl_append

theorem afterValue_eq_nil_iff (separators : List Char) (all : ∀ c ∈ separators, isSeparator c) :
    afterValue separators = [] ↔ ∀ c ∈ separators, c = ':' := by
  rw [afterValue, List.dropWhile_eq_nil_iff]
  constructor
  · intro visible c inside
    exact colon_of_isSeparator c (all c inside) (by simpa using visible c inside)
  · intro colons c inside
    rw [colons c inside]
    decide

theorem sweep_numeral (keyword : String) (before word separators after : List Char)
    (spoken : Spoken word keyword) (separates : Separates separators) (ends : after.head?.all isBlank) :
    (((∀ c ∈ separators, c = ':') ∨ Heeded keyword before word) ∧ ∃ out, ∀ secret, IsNumeral secret →
      sweep keywords (before ++ (word ++ (separators ++ (secret ++ after)))) = out) ∨
    (¬((∀ c ∈ separators, c = ':') ∨ Heeded keyword before word) ∧
      Bare fun secret => sweep keywords (before ++ (word ++ (separators ++ (secret ++ after))))) := by
  have order : ∀ keyword ∈ plainKeywords,
      keywords.takeWhile (· ≠ keyword) ++ [keyword] <+: keywords := by decide
  obtain ⟨rest, split⟩ := order keyword spoken.listed
  have others : ∀ other ∈ keywords.takeWhile (· ≠ keyword), other ∈ keywords ∧ other ≠ keyword :=
    fun other inside => ⟨(List.takeWhile_prefix _).subset inside,
      by simpa using List.mem_takeWhile_imp inside⟩
  have later : ∀ other ∈ rest, other ∈ keywords := fun other inside =>
    split ▸ List.mem_append_right _ inside
  have fate := fate_own keyword word separators _ _ spoken separates
    (fate_sweep keyword (keywords.takeWhile (· ≠ keyword)) others word separators (before ++ word)
      (fun secret => before ++ (word ++ (separators ++ (secret ++ after)))) spoken separates
      (.stands before after ends rfl fun _ _ => rfl))
  have own (text : List Char) :
      Pattern.replaceAll (marked keyword.toList) (sweep (keywords.takeWhile (· ≠ keyword)) text) =
        sweep (keywords.takeWhile (· ≠ keyword) ++ [keyword]) text := (sweep_append _ [keyword] text).symm
  have whole (text : List Char) :
      sweep keywords text = sweep rest (sweep (keywords.takeWhile (· ≠ keyword) ++ [keyword]) text) := by
    rw [← sweep_append, split]
  simp only [own] at fate
  simp only [whole, ← afterValue_eq_nil_iff separators separates.all]
  rcases fate with ⟨heeded, out, same⟩ | taken
  · exact .inl ⟨.inr heeded, _, fun secret numeral => congrArg _ (same secret numeral)⟩
  · cases taken with
    | whole colons out same =>
        exact .inl ⟨.inl colons, _, fun secret numeral => congrArg _ (same secret numeral)⟩
    | short spaced front ends bare =>
        have missed : ¬Heeded keyword before word := by
          rw [Heeded, ends]
          exact missed_of_bracket keyword word front spoken
        exact .inr ⟨not_or.mpr ⟨spaced, missed⟩, bare_sweep rest later _ bare⟩

end Redaction

open Redaction

/-- Redaction takes out the number behind a keyword without a trace, unless a pattern has taken the
keyword for the value of another one and a blank stands behind the keyword: there the number stays. -/
theorem redact_numeral_iff (keyword before word separators one two after : String)
    (spoken : Spoken word.toList keyword) (separates : Separates separators.toList)
    (first : IsNumeral one.toList) (second : IsNumeral two.toList)
    (ends : after.toList.head?.all isBlank) :
    redact (before ++ word ++ separators ++ one ++ after) =
        redact (before ++ word ++ separators ++ two ++ after) ↔
      one = two ∨ (∀ c ∈ separators.toList, c = ':') ∨ Heeded keyword before.toList word.toList := by
  have spelled (secret : String) : (before ++ word ++ separators ++ secret ++ after).toList =
      before.toList ++ (word.toList ++ (separators.toList ++ (secret.toList ++ after.toList))) := by
    simp
  simp only [redact, String.ofList_inj, spelled, redactChars_eq_sweep]
  rcases sweep_numeral keyword before.toList word.toList separators.toList after.toList spoken separates
    ends with ⟨reason, out, same⟩ | ⟨reason, bare⟩
  · rw [same _ first, same _ second]
    exact ⟨fun _ => .inr reason, fun _ => rfl⟩
  · obtain ⟨front, back, leaves⟩ := credentials_bare _ bare
    rw [leaves _ first, leaves _ second, List.append_right_inj, List.append_left_inj, String.toList_inj]
    exact ⟨.inl, fun agree => agree.resolve_right reason⟩

/-- The same word as the value of another keyword, and behind that value. -/
theorem redact_numeral_iff_contexts :
    Spoken "Bearer".toList "bearer" ∧ Separates " ".toList ∧ IsNumeral "12345".toList ∧
      IsNumeral "67890".toList ∧
      redact ("Authorization: " ++ "Bearer" ++ " " ++ "12345" ++ " end") ≠
        redact ("Authorization: " ++ "Bearer" ++ " " ++ "67890" ++ " end") ∧
      redact ("Authorization: x " ++ "Bearer" ++ " " ++ "12345" ++ " end") =
        redact ("Authorization: x " ++ "Bearer" ++ " " ++ "67890" ++ " end") := by
  have spoken : Spoken "Bearer".toList "bearer" := ⟨by decide, by decide⟩
  have separates : Separates " ".toList := ⟨by decide, of_mem (isSeparator ·) " ".toList (by decide)⟩
  have first : IsNumeral "12345".toList := ⟨by decide, of_mem (·.isDigit) "12345".toList (by decide)⟩
  have second : IsNumeral "67890".toList := ⟨by decide, of_mem (·.isDigit) "67890".toList (by decide)⟩
  have taken : sweep (keywords.takeWhile (· ≠ "bearer") ++ ["bearer"])
      ("Authorization: ".toList ++ "Bearer".toList) = marker := by
    cbv
  have kept : sweep (keywords.takeWhile (· ≠ "bearer") ++ ["bearer"])
      ("Authorization: x ".toList ++ "Bearer".toList) = "[REDACTED] Bearer".toList := by
    cbv
  refine ⟨spoken, separates, first, second, fun same => ?_, ?_⟩
  · have reason := (redact_numeral_iff "bearer" "Authorization: " "Bearer" " " "12345" "67890" " end"
      spoken separates first second (by decide)).mp same
    rcases reason with same | colons | heeded
    · exact absurd same (by decide)
    · exact absurd (colons ' ' (by decide)) (by decide)
    · rw [Heeded, taken] at heeded
      exact absurd heeded (by decide)
  · refine (redact_numeral_iff "bearer" "Authorization: x " "Bearer" " " "12345" "67890" " end" spoken
      separates first second (by decide)).mpr (.inr (.inr ?_))
    rw [Heeded, kept]
    decide

end ProxyCheck
