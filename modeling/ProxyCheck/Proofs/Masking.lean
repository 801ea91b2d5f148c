import ProxyCheck.Endpoint
import ProxyCheck.Proofs.Url.Authority

/-! What the mask of an address covers. It goes by the text alone: from the first `://`, or the start,
up to the next slash. -/
namespace ProxyCheck

theorem splitAtAuthority_starts (back : List Char) :
    splitAtAuthority ("://".toList ++ back) = some ("://".toList, back) := rfl

theorem splitAtAuthority_cons (c : Char) (rest : List Char) (other : ¬"://".toList <+: c :: rest) :
    splitAtAuthority (c :: rest) = (splitAtAuthority rest).map fun p => (c :: p.1, p.2) := by
  rw [splitAtAuthority.eq_def]
  simp only
  split
  · exact absurd ⟨_, rfl⟩ other
  · rfl

theorem of_splitAtAuthority (cs before after : List Char)
    (split : splitAtAuthority cs = some (before, after)) :
    cs = before ++ after ∧ ∃ front, before = front ++ "://".toList := by
  induction cs generalizing before with
  | nil => cases split
  | cons c rest ih =>
      by_cases starts : "://".toList <+: c :: rest
      · obtain ⟨back, same⟩ := starts
        rw [← same, splitAtAuthority_starts] at split
        cases split
        exact ⟨same.symm, [], rfl⟩
      · rw [splitAtAuthority_cons c rest starts] at split
        obtain ⟨⟨front, back⟩, later, same⟩ := Option.map_eq_some_iff.mp split
        cases same
        obtain ⟨whole, start, rfl⟩ := ih front later
        exact ⟨congrArg (c :: ·) whole, c :: start, rfl⟩

theorem splitAtAuthority_eq_none_iff (cs : List Char) :
    splitAtAuthority cs = none ↔ ¬"://".toList <:+: cs := by
  constructor
  · rintro split ⟨front, back, rfl⟩
    induction front with
    | nil =>
        rw [List.nil_append, splitAtAuthority_starts] at split
        cases split
    | cons c front ih =>
        apply ih
        rw [List.cons_append, List.cons_append, splitAtAuthority.eq_def] at split
        simp only at split
        split at split
        · cases split
        · exact Option.map_eq_none_iff.mp split
  · intro absent
    cases split : splitAtAuthority cs with
    | none => rfl
    | some parts =>
        obtain ⟨whole, front, same⟩ := of_splitAtAuthority cs parts.1 parts.2 split
        refine absurd ⟨front, parts.2, ?_⟩ absent
        rw [whole, same]

theorem starts_of_append (c : Char) (rest back : List Char)
    (enough : 2 ≤ rest.length ∨ back.head? ≠ some '/')
    (starts : "://".toList <+: c :: (rest ++ back)) : "://".toList <+: c :: rest := by
  rcases rest with _ | ⟨d, _ | ⟨e, rest⟩⟩
  · cases back with
    | nil => exact starts
    | cons d back =>
        simp only [List.nil_append, String.reduceToList, List.cons_prefix_cons] at starts
        simp [← starts.2.1] at enough
  · cases back with
    | nil => exact starts
    | cons e back =>
        simp only [List.cons_append, List.nil_append, String.reduceToList, List.cons_prefix_cons]
          at starts
        simp [← starts.2.2.1] at enough
  · simpa using starts

theorem splitAtAuthority_append_some (cs before after back : List Char)
    (split : splitAtAuthority cs = some (before, after)) :
    splitAtAuthority (cs ++ back) = some (before, after ++ back) := by
  induction cs generalizing before with
  | nil => cases split
  | cons c rest ih =>
      by_cases starts : "://".toList <+: c :: rest
      · obtain ⟨tail, same⟩ := starts
        rw [← same, splitAtAuthority_starts] at split
        cases split
        rw [← same, List.append_assoc, splitAtAuthority_starts]
      · have enough : 2 ≤ rest.length := by
          obtain ⟨whole, front, rfl⟩ := of_splitAtAuthority _ before after split
          have counted := congrArg List.length whole
          simp at counted
          omega
        rw [splitAtAuthority_cons c rest starts] at split
        obtain ⟨⟨front, tail⟩, later, same⟩ := Option.map_eq_some_iff.mp split
        cases same
        rw [List.cons_append, splitAtAuthority_cons c _ fun other =>
          starts (starts_of_append c rest back (.inl enough) other), ih front later]
        rfl

theorem splitAtAuthority_append_none (cs back : List Char) (split : splitAtAuthority cs = none)
    (apart : back.head? ≠ some '/') :
    splitAtAuthority (cs ++ back) = (splitAtAuthority back).map fun p => (cs ++ p.1, p.2) := by
  induction cs with
  | nil => simp
  | cons c rest ih =>
      have other : ¬"://".toList <+: c :: rest := by
        rintro ⟨tail, same⟩
        rw [← same, splitAtAuthority_starts] at split
        cases split
      rw [splitAtAuthority_cons c rest other, Option.map_eq_none_iff] at split
      rw [List.cons_append, splitAtAuthority_cons c _ fun starts =>
        other (starts_of_append c rest back (.inr apart) starts), ih split, Option.map_map]
      rfl

theorem maskAuthority_append_of_slash (cs back : List Char) (slash : '/' ∈ cs) :
    maskAuthority (cs ++ back) = maskAuthority cs ++ back := by
  obtain ⟨take, drop⟩ := span_append_of_mem (fun c => decide (c ≠ '/')) cs back '/' slash rfl
  rw [maskAuthority, maskAuthority, take, drop]
  cases Url.splitLastAt (cs.takeWhile fun c => decide (c ≠ '/')) with
  | none => rfl
  | some parts => simp

theorem maskAuthority_covers (front back : List Char) (slash : '/' ∉ front) (colon : ':' ∈ front)
    (at_ : '@' ∈ back.takeWhile (· ≠ '/')) :
    ∃ shown, ∀ secret, '/' ∉ secret → maskAuthority (front ++ (secret ++ back)) = shown := by
  cases last : Url.splitLastAt (back.takeWhile (· ≠ '/')) with
  | none => exact absurd at_ (Url.of_splitLastAt_none _ last)
  | some parts =>
      rcases parts with ⟨before, after⟩
      obtain ⟨whole, absent⟩ := Url.of_splitLastAt _ before after last
      refine ⟨front.takeWhile (· ≠ ':') ++ ':' :: mask ++ '@' :: after ++ back.dropWhile (· ≠ '/'),
        fun secret clean => ?_⟩
      have inside : ∀ c ∈ front ++ secret, decide (c ≠ '/') := by
        intro c member
        rcases List.mem_append.mp member with member | member
        · exact decide_eq_true fun same => slash (same ▸ member)
        · exact decide_eq_true fun same => clean (same ▸ member)
      have authority : (front ++ (secret ++ back)).takeWhile (fun c => decide (c ≠ '/')) =
          (front ++ (secret ++ before)) ++ '@' :: after := by
        rw [← List.append_assoc, List.takeWhile_append_of_pos inside, whole]
        simp
      have tail : (front ++ (secret ++ back)).dropWhile (fun c => decide (c ≠ '/')) =
          back.dropWhile (· ≠ '/') := by
        rw [← List.append_assoc, List.dropWhile_append_of_pos inside]
      have first := (span_append_of_mem (fun c => decide (c ≠ ':')) front (secret ++ before) ':' colon
        rfl).1
      rw [maskAuthority, authority, tail, Url.splitLastAt_append _ after absent]
      simp only
      rw [maskUserinfo, if_pos (by simp [colon]), first]

/-- A mask reaches over the end of a text: it has begun, and no slash has ended it. -/
def Covered (before after : List Char) : Prop :=
  match splitAtAuthority before with
  | some (_, rest) => '/' ∉ rest
  | none => '/' ∉ before ∧ splitAtAuthority after = none

/-- What stands between two texts has a colon before it and an at sign after it, with no slash on the
way. -/
structure Enclosed (before after : List Char) : Prop where
  colon : ∃ front gap, before = front ++ ':' :: gap ∧ '/' ∉ gap
  at_ : ∃ gap back, after = gap ++ '@' :: back ∧ '/' ∉ gap

theorem Enclosed.colon_mem (before after : List Char) (enclosed : Enclosed before after) :
    ':' ∈ before := by
  obtain ⟨front, gap, rfl, -⟩ := enclosed.colon
  simp

theorem Enclosed.colon_mem_rest (before after front rest : List Char)
    (enclosed : Enclosed before after) (split : splitAtAuthority before = some (front, rest)) :
    ':' ∈ rest := by
  obtain ⟨start, gap, same, clean⟩ := enclosed.colon
  obtain ⟨whole, scheme, rfl⟩ := of_splitAtAuthority before front rest split
  have meet : start ++ ':' :: gap = (scheme ++ [':', '/']) ++ '/' :: rest := by
    rw [← same, whole]
    simp
  rcases List.append_eq_append_iff.mp meet with ⟨middle, -, later⟩ | ⟨middle, -, later⟩
  · have slash : '/' ∈ ':' :: gap := by simp [later]
    exact absurd slash (by simp [clean])
  · cases middle with
    | nil => simp at later
    | cons c middle =>
        rw [List.cons_append, List.cons.injEq] at later
        simp [later.2]

theorem Enclosed.at_mem (before after : List Char) (enclosed : Enclosed before after) :
    '@' ∈ after.takeWhile (· ≠ '/') := by
  obtain ⟨gap, back, rfl, clean⟩ := enclosed.at_
  have inside : ∀ c ∈ gap, decide (c ≠ '/') := fun c member =>
    decide_eq_true fun same => clean (same ▸ member)
  rw [List.takeWhile_append_of_pos inside]
  simp

theorem Enclosed.head?_ne_slash (before after secret : List Char) (enclosed : Enclosed before after)
    (clean : '/' ∉ secret) : (secret ++ after).head? ≠ some '/' := by
  obtain ⟨gap, back, rfl, plain⟩ := enclosed.at_
  intro first
  cases secret with
  | nil =>
      cases gap with
      | nil => simp at first
      | cons c gap => simp_all
  | cons c secret => simp_all

theorem splitAtAuthority_of_not_mem (cs : List Char) (absent : ':' ∉ cs) :
    splitAtAuthority cs = none := by
  rw [splitAtAuthority_eq_none_iff]
  intro found
  exact absent (found.subset (by simp))

/-- A secret does not split an address, nor does it keep a text after it from splitting it. -/
theorem splitAtAuthority_of_enclosed (before after secret : List Char)
    (enclosed : Enclosed before after) (split : splitAtAuthority before = none)
    (colon : ':' ∉ secret) (clean : '/' ∉ secret) :
    splitAtAuthority (before ++ (secret ++ after)) =
      (splitAtAuthority after).map fun p => (before ++ (secret ++ p.1), p.2) := by
  have next : after.head? ≠ some '/' :=
    enclosed.head?_ne_slash before after [] List.not_mem_nil
  rw [splitAtAuthority_append_none before _ split
      (enclosed.head?_ne_slash before after secret clean),
    splitAtAuthority_append_none secret _ (splitAtAuthority_of_not_mem secret colon) next,
    Option.map_map]
  rfl

theorem maskAddressChars_shows (before after : List Char) (enclosed : Enclosed before after)
    (uncovered : ¬Covered before after) :
    ∃ front back, ∀ secret, ':' ∉ secret → '/' ∉ secret →
      maskAddressChars (before ++ (secret ++ after)) = front ++ (secret ++ back) := by
  rw [Covered] at uncovered
  cases split : splitAtAuthority before with
  | some parts =>
      rcases parts with ⟨front, rest⟩
      have slash : '/' ∈ rest := by simpa [split] using uncovered
      refine ⟨front ++ maskAuthority rest, after, fun secret _ _ => ?_⟩
      rw [maskAddressChars, splitAtAuthority_append_some _ _ _ _ split]
      simp only
      rw [maskAuthority_append_of_slash rest _ slash, List.append_assoc]
  | none =>
      have whole := fun secret => splitAtAuthority_of_enclosed before after secret enclosed split
      cases later : splitAtAuthority after with
      | some parts =>
          rcases parts with ⟨front, rest⟩
          refine ⟨before, front ++ maskAuthority rest, fun secret colon clean => ?_⟩
          rw [maskAddressChars, whole secret colon clean, later]
          simp
      | none =>
          have slash : '/' ∈ before := by simpa [split, later] using uncovered
          refine ⟨maskAuthority before, after, fun secret colon clean => ?_⟩
          rw [maskAddressChars, whole secret colon clean, later]
          exact maskAuthority_append_of_slash before _ slash

theorem maskAddressChars_covers (before after : List Char) (enclosed : Enclosed before after)
    (covered : Covered before after) :
    ∃ shown, ∀ secret, ':' ∉ secret → '/' ∉ secret →
      maskAddressChars (before ++ (secret ++ after)) = shown := by
  rw [Covered] at covered
  have marked := enclosed.at_mem before after
  cases split : splitAtAuthority before with
  | some parts =>
      rcases parts with ⟨front, rest⟩
      have clean : '/' ∉ rest := by simpa [split] using covered
      obtain ⟨shown, covers⟩ := maskAuthority_covers rest after clean
        (enclosed.colon_mem_rest before after front rest split) marked
      refine ⟨front ++ shown, fun secret _ plain => ?_⟩
      rw [maskAddressChars, splitAtAuthority_append_some _ _ _ _ split]
      simp only
      rw [covers secret plain]
  | none =>
      simp only [split] at covered
      obtain ⟨shown, covers⟩ := maskAuthority_covers before after covered.1
        (enclosed.colon_mem before after) marked
      refine ⟨shown, fun secret colon plain => ?_⟩
      rw [maskAddressChars, splitAtAuthority_of_enclosed before after secret enclosed split colon plain,
        covered.2]
      exact covers secret plain

/-- A mask hides which of two secrets it is exactly if it covers their place. -/
theorem maskAddressChars_agree_iff (before after first second : List Char)
    (enclosed : Enclosed before after) (plainFirst : ':' ∉ first ∧ '/' ∉ first)
    (plainSecond : ':' ∉ second ∧ '/' ∉ second) :
    maskAddressChars (before ++ (first ++ after)) = maskAddressChars (before ++ (second ++ after)) ↔
      first = second ∨ Covered before after := by
  by_cases covered : Covered before after
  · obtain ⟨shown, covers⟩ := maskAddressChars_covers before after enclosed covered
    simp [covered, covers first plainFirst.1 plainFirst.2, covers second plainSecond.1 plainSecond.2]
  · obtain ⟨front, back, shows⟩ := maskAddressChars_shows before after enclosed covered
    simp [covered, shows first plainFirst.1 plainFirst.2, shows second plainSecond.1 plainSecond.2]

end ProxyCheck
