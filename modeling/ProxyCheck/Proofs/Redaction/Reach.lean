import ProxyCheck.Proofs.Redaction.NormalForm

/-! How far a keyword's pattern reaches. A value ends at the next blank and nowhere before, so that
what the pattern makes of the front of a text hardly depends on what stands behind it. -/
namespace ProxyCheck.Redaction

def afterValue (text : List Char) : List Char :=
  text.dropWhile fun c => !isBlank c

theorem afterValue_append (value rest : List Char) (visible : ∀ c ∈ value, isBlank c = false) :
    afterValue (value ++ rest) = afterValue rest := by
  rw [afterValue, List.dropWhile_append_of_pos fun c member => by simp [visible c member]]
  rfl

theorem afterValue_of_blank (text : List Char) (blank : text.head?.all isBlank) :
    afterValue text = text := by
  cases text with
  | nil => rfl
  | cons c rest => exact List.dropWhile_cons_of_neg (by simpa using blank)

theorem value_append_afterValue (text : List Char) :
    (text.takeWhile fun c => !isBlank c) ++ afterValue text = text :=
  List.takeWhile_append_dropWhile

theorem afterValue_head (text : List Char) : (afterValue text).head?.all isBlank := by
  rw [afterValue]
  simpa only [Bool.not_not] using head?_dropWhile (fun c => !isBlank c) text

theorem afterValue_starts (text : List Char) (left : afterValue text ≠ []) :
    (afterValue text).head?.any isBlank := by
  have blank := afterValue_head text
  obtain ⟨b, rest, split⟩ := List.exists_cons_of_ne_nil left
  rw [split] at blank ⊢
  simpa using blank

theorem blank_of_isSeparator (c : Char) (other : isSeparator c = false) : isBlank c = false := by
  rw [isSeparator, Bool.or_eq_false_iff] at other
  exact other.2

theorem replaceAll_of_none (p : Pattern) (c : Char) (rest : List Char)
    (nothing : p (c :: rest) = none) : p.replaceAll (c :: rest) = c :: p.replaceAll rest := by
  rw [Pattern.replaceAll, nothing]

theorem replaceAll_of_found (p : Pattern) (taken rest replacement : List Char) (nonempty : taken ≠ [])
    (finds : p (taken ++ rest) = some ⟨taken.length, replacement⟩) :
    p.replaceAll (taken ++ rest) = replacement ++ p.replaceAll rest := by
  obtain ⟨c, taken, rfl⟩ := List.exists_cons_of_ne_nil nonempty
  rw [List.cons_append] at finds ⊢
  rw [Pattern.replaceAll, finds]
  simp

theorem replaceAll_passing (p : Pattern) (front tail : List Char)
    (nothing : ∀ start, start <:+ front → start ≠ [] → p (start ++ tail) = none) :
    p.replaceAll (front ++ tail) = front ++ p.replaceAll tail := by
  induction front with
  | nil => rfl
  | cons c front ih =>
      have first := nothing (c :: front) List.suffix_rfl (List.cons_ne_nil c front)
      have rest := ih fun start suffix => nothing start (suffix.trans (List.suffix_cons c front))
      exact (replaceAll_of_none p c (front ++ tail) first).trans (congrArg (c :: ·) rest)

theorem marked_value (keyword word separators text : List Char)
    (folded : word.map foldCase = keyword) (all : ∀ s ∈ separators, isSeparator s)
    (nonempty : separators ≠ []) (starts : text.head?.any fun c => !isSeparator c) :
    marked keyword (word ++ (separators ++ text)) =
      some ⟨(word ++ (separators ++ text.takeWhile fun c => !isBlank c)).length, marker⟩ := by
  cases text with
  | nil => cases starts
  | cons c rest =>
      have other : isSeparator c = false := by simpa using starts
      have visible := blank_of_isSeparator c other
      have after := (afterWord?_eq_some_iff keyword _ (separators ++ c :: rest)).mpr
        ⟨word, rfl, folded⟩
      obtain ⟨run, value⟩ := Url.span_stop isSeparator separators (c :: rest) all (by simpa using other)
      have length : valueLength? (separators ++ c :: rest) = some (separators.length +
          ((c :: rest).takeWhile fun c => !isBlank c).length) := by
        rw [valueLength?]
        simp only
        rw [run, value, List.takeWhile_cons_of_pos (by simp [visible])]
        simp [nonempty]
      rw [marked, after]
      simp only [Option.bind_eq_bind, Option.bind_some, length]
      rw [← folded]
      simp

theorem marked_of_unseparated (keyword text : List Char)
    (unseparated : ∀ word rest, text = word ++ rest → word.map foldCase = keyword →
      rest.head?.all fun c => !isSeparator c) : marked keyword text = none := by
  by_contra finds
  rw [← ne_eq, Option.ne_none_iff_isSome, isSome_marked_iff_hasValue] at finds
  obtain ⟨word, _, rfl, folded, separators, c, rest, rfl, nonempty, all, -⟩ := finds
  have stop := unseparated word _ rfl folded
  obtain ⟨s, separators, rfl⟩ := List.exists_cons_of_ne_nil nonempty
  have first := all s List.mem_cons_self
  simp [first] at stop

/-- What a keyword's pattern makes of the front of a text, whichever of some tails stands behind it:
nothing, a finding that ends before a blank, or one that takes the value at the start of the tail. -/
inductive Verdict (keyword front : List Char) (tails : List Char → Prop) : Prop where
  | passes (nothing : ∀ tail, tails tail → marked keyword (front ++ tail) = none)
  | stops (taken more : List Char) (split : front = taken ++ more) (nonempty : taken ≠ [])
      (blank : more.head?.any isBlank)
      (finds : ∀ tail, tails tail →
        marked keyword (front ++ tail) = some ⟨taken.length, marker⟩)
  | reaches (finds : ∀ tail, tails tail → ∃ taken, taken ≠ [] ∧
      front ++ tail = taken ++ afterValue tail ∧
        marked keyword (front ++ tail) = some ⟨taken.length, marker⟩)

structure Apart (keyword front : List Char) (tails : List Char → Prop) : Prop where
  starts : ∀ tail, tails tail → tail.head?.any fun c => !isSeparator c
  unspelled : ∀ tail, tails tail → ∀ word rest, front ++ tail = word ++ rest →
    word.map foldCase = keyword → front.length < word.length →
      rest.head?.all fun c => !isSeparator c

theorem verdict_of_word (word gap : List Char) (tails : List Char → Prop)
    (starts : ∀ tail, tails tail → tail.head?.any fun c => !isSeparator c) :
    Verdict (word.map foldCase) (word ++ gap) tails := by
  obtain ⟨separators, more, rfl, all, stop⟩ : ∃ separators more, gap = separators ++ more ∧
      (∀ s ∈ separators, isSeparator s) ∧ more.head?.all fun c => !isSeparator c :=
    ⟨_, _, List.takeWhile_append_dropWhile.symm, fun s member => List.mem_takeWhile_imp member,
      head?_dropWhile isSeparator gap⟩
  have begins (tail : List Char) (listed : tails tail) :
      (more ++ tail).head?.any fun c => !isSeparator c := by
    cases more with
    | nil => exact starts tail listed
    | cons c more => simpa using stop
  by_cases bare : separators = []
  · refine .passes fun tail listed => marked_of_unseparated _ _ fun other rest same folded => ?_
    have length := congrArg List.length folded
    rw [List.length_map, List.length_map] at length
    rw [bare, List.nil_append, List.append_assoc] at same
    have value := begins tail listed
    rw [(List.append_inj same length.symm).2] at value
    cases rest with
    | nil => rfl
    | cons c rest => simpa using value
  · have finds (tail : List Char) (listed : tails tail) :=
      marked_value (word.map foldCase) word separators (more ++ tail) rfl all bare (begins tail listed)
    have assoc (tail : List Char) :
        word ++ (separators ++ more) ++ tail = word ++ (separators ++ (more ++ tail)) := by simp
    have nonempty (value : List Char) : word ++ (separators ++ value) ≠ [] := by simp [bare]
    have whole := value_append_afterValue more
    have blank := afterValue_head more
    have visible : ∀ c ∈ more.takeWhile fun c => !isBlank c, isBlank c = false := fun c member => by
      simpa using List.mem_takeWhile_imp member
    -- The value ends before a blank of the front, or else it has no blank in the front.
    cases left : afterValue more with
    | cons b rest =>
        rw [left] at whole blank
        refine .stops _ (b :: rest) ?_ (nonempty (more.takeWhile fun c => !isBlank c))
          (by simpa using blank) fun tail listed => ?_
        · rw [List.append_assoc, List.append_assoc, whole]
        · have reach : (more ++ tail).takeWhile (fun c => !isBlank c) =
              more.takeWhile fun c => !isBlank c := by
            calc (more ++ tail).takeWhile (fun c => !isBlank c)
                = ((more.takeWhile fun c => !isBlank c) ++ (b :: rest ++ tail)).takeWhile
                    fun c => !isBlank c := by rw [← List.append_assoc, whole]
              _ = (more.takeWhile fun c => !isBlank c) ++
                    (b :: rest ++ tail).takeWhile fun c => !isBlank c :=
                  List.takeWhile_append_of_pos fun c member => by simp [visible c member]
              _ = more.takeWhile fun c => !isBlank c := by
                  rw [List.cons_append, List.takeWhile_cons_of_neg (by simpa using blank),
                    List.append_nil]
          rw [assoc, finds tail listed, reach]
    | nil =>
        rw [left, List.append_nil] at whole
        rw [whole] at visible
        refine .reaches fun tail listed => ⟨_, nonempty (more ++ tail.takeWhile fun c => !isBlank c), ?_, ?_⟩
        · rw [assoc]
          simp only [List.append_assoc, value_append_afterValue]
        · rw [assoc, finds tail listed,
            List.takeWhile_append_of_pos fun c member => by simp [visible c member]]

theorem verdict (keyword front : List Char) (tails : List Char → Prop)
    (apart : Apart keyword front tails) : Verdict keyword front tails := by
  by_cases here : ∃ word gap, front = word ++ gap ∧ word.map foldCase = keyword
  · obtain ⟨word, gap, rfl, rfl⟩ := here
    exact verdict_of_word word gap tails apart.starts
  · refine .passes fun tail listed => marked_of_unseparated _ _ fun word rest same folded => ?_
    refine apart.unspelled tail listed word rest same folded (Nat.lt_of_not_le fun short => here ?_)
    rcases List.append_eq_append_iff.mp same with ⟨more, longer, -⟩ | ⟨gap, split, -⟩
    · rw [longer, List.length_append] at short
      have empty : more = [] := List.length_eq_zero_iff.mp (by omega)
      exact ⟨word, [], by simp [longer, empty], folded⟩
    · exact ⟨word, gap, split, folded⟩

theorem replaceAll_solid (keyword core : List Char) (tails : List Char → Prop)
    (visible : ∀ c ∈ core, isBlank c = false)
    (verdicts : ∀ start, start <:+ core → start ≠ [] → Verdict keyword start tails) :
    (∀ tail, tails tail → Pattern.replaceAll (marked keyword) (core ++ tail) =
        core ++ Pattern.replaceAll (marked keyword) tail) ∨
      ∃ out, ∀ tail, tails tail → Pattern.replaceAll (marked keyword) (core ++ tail) =
        out ++ (marker ++ Pattern.replaceAll (marked keyword) (afterValue tail)) := by
  induction core with
  | nil => exact .inl fun tail listed => rfl
  | cons c core ih =>
      rcases verdicts (c :: core) List.suffix_rfl (List.cons_ne_nil c core) with
        nothing | ⟨taken, more, split, -, blank, -⟩ | finds
      · have step (tail : List Char) (listed : tails tail) :=
          replaceAll_of_none (marked keyword) c (core ++ tail) (nothing tail listed)
        rcases ih (fun d member => visible d (List.mem_cons_of_mem c member)) fun start suffix =>
          verdicts start (suffix.trans (List.suffix_cons c core)) with stays | ⟨out, reaches⟩
        · refine .inl fun tail listed => ?_
          rw [List.cons_append, step tail listed, stays tail listed]
          rfl
        · refine .inr ⟨c :: out, fun tail listed => ?_⟩
          rw [List.cons_append, step tail listed, reaches tail listed]
          rfl
      · cases more with
        | nil => cases blank
        | cons b more =>
            have inside : b ∈ c :: core := by simp [split]
            have space : isBlank b := by simpa using blank
            rw [visible b inside] at space
            cases space
      · refine .inr ⟨[], fun tail listed => ?_⟩
        obtain ⟨taken, nonempty, split, found⟩ := finds tail listed
        rw [split] at found ⊢
        exact replaceAll_of_found _ taken _ marker nonempty found

/-- The front of a text comes out the same, whichever tail stands behind it, unless its end is taken
for a value together with the start of the tail. A last piece without blanks stays with the tail. -/
theorem replaceAll_front (keyword front core : List Char) (tails : List Char → Prop)
    (visible : ∀ c ∈ core, isBlank c = false)
    (verdicts : ∀ start, start <:+ front ++ core → start ≠ [] → Verdict keyword start tails) :
    (∃ out, ∀ tail, tails tail → Pattern.replaceAll (marked keyword) (front ++ (core ++ tail)) =
        out ++ (core ++ Pattern.replaceAll (marked keyword) tail)) ∨
      ∃ out, ∀ tail, tails tail → Pattern.replaceAll (marked keyword) (front ++ (core ++ tail)) =
        out ++ (marker ++ Pattern.replaceAll (marked keyword) (afterValue tail)) := by
  induction size : front.length using Nat.strongRecOn generalizing front with
  | ind n ih =>
      cases front with
      | nil =>
          rcases replaceAll_solid keyword core tails visible verdicts with stays | reaches
          · exact .inl ⟨[], stays⟩
          · exact .inr reaches
      | cons c front =>
          rcases verdicts (c :: front ++ core) List.suffix_rfl (by simp) with
            nothing | ⟨taken, more, split, nonempty, blank, finds⟩ | finds
          · have step (tail : List Char) (listed : tails tail) :
                Pattern.replaceAll (marked keyword) (c :: (front ++ (core ++ tail))) =
                  c :: Pattern.replaceAll (marked keyword) (front ++ (core ++ tail)) := by
              have found := nothing tail listed
              rw [List.append_assoc] at found
              exact replaceAll_of_none (marked keyword) c _ found
            rcases ih front.length (by simp [← size]) front (fun start suffix =>
              verdicts start (suffix.trans (List.suffix_cons c _))) rfl with
              ⟨out, stays⟩ | ⟨out, reaches⟩
            · refine .inl ⟨c :: out, fun tail listed => ?_⟩
              rw [List.cons_append, step tail listed, stays tail listed]
              rfl
            · refine .inr ⟨c :: out, fun tail listed => ?_⟩
              rw [List.cons_append, step tail listed, reaches tail listed]
              rfl
          -- The blank stands before the last piece, which has none.
          · obtain ⟨gap, shorter, rest⟩ : ∃ gap, c :: front = taken ++ gap ∧ more = gap ++ core := by
              rcases List.append_eq_append_iff.mp split with ⟨piece, -, last⟩ | ⟨gap, first, rest⟩
              · cases more with
                | nil => cases blank
                | cons b more =>
                    have inside : b ∈ core := by simp [last]
                    have space : isBlank b := by simpa using blank
                    rw [visible b inside] at space
                    cases space
              · exact ⟨gap, first, rest⟩
            have step (tail : List Char) (listed : tails tail) :
                Pattern.replaceAll (marked keyword) (taken ++ (gap ++ (core ++ tail))) =
                  marker ++ Pattern.replaceAll (marked keyword) (gap ++ (core ++ tail)) := by
              refine replaceAll_of_found _ taken _ marker nonempty ?_
              rw [← finds tail listed, shorter]
              simp
            have less : gap.length < n := by
              have positive := List.length_pos_of_ne_nil nonempty
              rw [← size, shorter, List.length_append]
              omega
            rcases ih gap.length less gap (fun start suffix => verdicts start (by
              rw [shorter, List.append_assoc]
              exact suffix.trans (List.suffix_append taken _))) rfl with
              ⟨out, stays⟩ | ⟨out, reaches⟩
            · refine .inl ⟨marker ++ out, fun tail listed => ?_⟩
              rw [shorter, List.append_assoc, step tail listed, stays tail listed, List.append_assoc]
            · refine .inr ⟨marker ++ out, fun tail listed => ?_⟩
              rw [shorter, List.append_assoc, step tail listed, reaches tail listed, List.append_assoc]
          · refine .inr ⟨[], fun tail listed => ?_⟩
            obtain ⟨taken, nonempty, split, found⟩ := finds tail listed
            rw [split] at found
            rw [← List.append_assoc, split]
            exact replaceAll_of_found _ taken _ marker nonempty found

def sweep (all : List String) (text : List Char) : List Char :=
  all.foldl (fun text keyword => Pattern.replaceAll (marked keyword.toList) text) text

theorem redactChars_eq_sweep (text : List Char) :
    redactChars text = Pattern.replaceAll credentials (sweep keywords text) := by
  rw [redactChars, patterns, List.foldl_append, List.foldl_map]
  rfl

end ProxyCheck.Redaction
