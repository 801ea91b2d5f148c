import ProxyCheck.Proofs.Json.Scalar

/-! Whatever number is written is a number of JSON, and is passed over. -/
namespace ProxyCheck

namespace JsonReader

structure IsDigits (digits : List Char) : Prop where
  nonempty : digits ≠ []
  all : ∀ c ∈ digits, c.isDigit

/-- A whole part: it begins with a zero only if it is one. -/
inductive IsWhole : List Char → Prop where
  | zero : IsWhole ['0']
  | digits (ds : List Char) (digits : IsDigits ds) (first : ds.head? ≠ some '0') : IsWhole ds

inductive IsFraction : List Char → Prop where
  | none : IsFraction []
  | digits (ds : List Char) (digits : IsDigits ds) : IsFraction ('.' :: ds)

inductive IsExponent : List Char → Prop where
  | none : IsExponent []
  | digits (ds : List Char) (digits : IsDigits ds) : IsExponent ('e' :: ds)
  | negated (ds : List Char) (digits : IsDigits ds) : IsExponent ('e' :: '-' :: ds)

inductive IsNumeral : List Char → Prop where
  | parts (front fraction exponent : List Char) (whole : IsWhole front) (point : IsFraction fraction)
      (power : IsExponent exponent) : IsNumeral (front ++ (fraction ++ exponent))

theorem skipDigits_append (ds rest : List Char) (digits : IsDigits ds)
    (stops : ∀ c, rest.head? = some c → c.isDigit = false) :
    skipDigits (ds ++ rest) = .ok ((), rest) := by
  have drop : (ds ++ rest).dropWhile Char.isDigit = rest := by
    rw [List.dropWhile_append_of_pos digits.all]
    cases rest with
    | nil => rfl
    | cons c rest => exact List.dropWhile_cons_of_neg (by simp [stops c rfl])
  obtain ⟨c, more, rfl⟩ := List.exists_cons_of_ne_nil digits.nonempty
  have first : startsWithDigit (c :: more ++ rest) := digits.all c List.mem_cons_self
  rw [skipDigits, if_pos first, drop]

theorem skipExponent_append (cs rest : List Char) (power : IsExponent cs) (ends : EndsValue rest) :
    skipExponent (cs ++ rest) = .ok ((), rest) := by
  obtain ⟨d, tail, rfl, other, -, mark⟩ := of_endsValue rest ends
  have stops : ∀ c, (d :: tail).head? = some c → c.isDigit = false := by
    rintro c same
    cases same
    exact other
  cases power with
  | none => exact if_neg (by simp [mark])
  | digits ds digits =>
      have passed := skipDigits_append ds (d :: tail) digits stops
      obtain ⟨c, more, rfl⟩ := List.exists_cons_of_ne_nil digits.nonempty
      have digit := digits.all c List.mem_cons_self
      have unsigned : ¬(c == '+' || c == '-') = true := by
        intro sign
        simp only [Bool.or_eq_true, beq_iff_eq] at sign
        rcases sign with rfl | rfl <;> cases digit
      exact (congrArg skipDigits (if_neg unsigned)).trans passed
  | negated ds digits => exact skipDigits_append ds (d :: tail) digits stops

def skipFraction : JsonReader Unit
  | '.' :: rest => skipDigits rest >>= fun ((), rest) => skipExponent rest
  | rest => skipExponent rest

theorem skipNumber_append (front tail : List Char) (whole : IsWhole front)
    (stops : ∀ c, tail.head? = some c → c.isDigit = false) :
    skipNumber (front ++ tail) = skipFraction tail := by
  cases whole with
  | zero =>
      have start : startsWithDigit tail = false := by
        cases tail with
        | nil => rfl
        | cons c tail => exact stops c rfl
      rw [List.singleton_append, skipNumber, start]
      rfl
  | digits ds digits first =>
      have passed := skipDigits_append front tail digits stops
      obtain ⟨c, more, rfl⟩ := List.exists_cons_of_ne_nil digits.nonempty
      rw [List.cons_append] at passed ⊢
      rw [skipNumber, passed]
      · rfl
      · intro rest same
        exact first (congrArg some (List.cons.inj same).1)

theorem skipFraction_append (cs rest : List Char) (point : IsFraction cs)
    (stops : ∀ c, rest.head? = some c → c.isDigit = false ∧ c ≠ '.') :
    skipFraction (cs ++ rest) = skipExponent rest := by
  cases point with
  | none =>
      rw [List.nil_append, skipFraction.eq_def]
      split
      · exact absurd rfl (stops '.' rfl).2
      · rfl
  | digits ds digits =>
      have passed := skipDigits_append ds rest digits fun c same => (stops c same).1
      rw [List.cons_append, skipFraction, passed]
      rfl

theorem skipNumber_numeral (cs rest : List Char) (numeral : IsNumeral cs) (ends : EndsValue rest) :
    skipNumber (cs ++ rest) = .ok ((), rest) := by
  obtain ⟨front, fraction, exponent, whole, point, power⟩ := numeral
  have next : ∀ c, (exponent ++ rest).head? = some c → c.isDigit = false ∧ c ≠ '.' := by
    obtain ⟨d, tail, rfl, other, sign, -⟩ := of_endsValue rest ends
    rintro c same
    cases power with
    | none =>
        cases same
        exact ⟨other, sign⟩
    | digits =>
        cases same
        decide
    | negated =>
        cases same
        decide
  have stops : ∀ c, (fraction ++ (exponent ++ rest)).head? = some c → c.isDigit = false := by
    intro c same
    cases point with
    | none => exact (next c same).1
    | digits =>
        cases same
        rfl
  rw [List.append_assoc, List.append_assoc, skipNumber_append front _ whole stops,
    skipFraction_append fraction _ point next, skipExponent_append exponent rest power ends]

theorem isDigits_toString (n : Nat) : IsDigits (toString n).toList := by
  constructor
  · rw [toList_toString]
    exact Nat.toDigits_ne_nil
  · exact isDigit_of_mem_toString n

theorem isWhole_toString (n : Nat) : IsWhole (toString n).toList := by
  by_cases zero : n = 0
  · rw [zero]
    exact .zero
  · refine .digits _ (isDigits_toString n) ?_
    rw [toList_toString]
    exact head?_toDigits n (Nat.pos_of_ne_zero zero)

theorem isExponent_toString (n : Int) : IsExponent ('e' :: (toString n).toList) := by
  cases n with
  | ofNat n => exact .digits _ (isDigits_toString n)
  | negSucc n =>
      rw [toList_toString_negSucc]
      exact .negated _ (isDigits_toString (n + 1))

end JsonReader

namespace Decimal

open JsonReader

theorem isDigit_of_mem_zeros (n : Nat) (c : Char) (member : c ∈ zeros n) : c.isDigit := by
  rw [List.eq_of_mem_replicate member]
  rfl

theorem isNumeral_text (d : Decimal) : IsNumeral d.text := by
  have zero : IsDigits ['0'] := isDigits_toString 0
  by_cases nothing : d.digits = 0
  · rw [text, if_pos nothing]
    exact .parts ['0'] ['.', '0'] [] .zero (.digits _ zero) .none
  have digits : IsDigits d.digitText := isDigits_toString d.digits
  have length : d.pointPlace = d.digitText.length + d.exponent := rfl
  have first : d.digitText.head? ≠ some '0' := by
    rw [digitText, toList_toString]
    exact head?_toDigits d.digits (Nat.pos_of_ne_zero nothing)
  obtain ⟨c, more, front⟩ := List.exists_cons_of_ne_nil digits.nonempty
  have begins (ds : List Char) (all : ∀ d ∈ ds, d.isDigit) : IsWhole (c :: ds) := by
    have here := digits.all c (front ▸ List.mem_cons_self)
    refine .digits _ ⟨nofun, List.forall_mem_cons.mpr ⟨here, all⟩⟩ fun same => first ?_
    rw [front]
    exact same
  have later : ∀ d ∈ more, d.isDigit := fun d member =>
    digits.all d (front ▸ List.mem_cons_of_mem c member)
  rw [text, if_neg nothing, front]
  split_ifs with large middle small
  case pos =>
    have shape : c :: more ++ zeros d.exponent.toNat ++ ".0".toList =
        c :: (more ++ zeros d.exponent.toNat) ++ (['.', '0'] ++ []) := by simp
    have all := List.forall_mem_append.mpr ⟨later, isDigit_of_mem_zeros d.exponent.toNat⟩
    rw [shape]
    exact .parts _ _ _ (begins _ all) (.digits _ zero) .none
  case pos =>
    have inside : d.pointPlace.toNat < (c :: more).length := by
      rw [front] at length
      omega
    obtain ⟨n, place⟩ : ∃ n, d.pointPlace.toNat = n + 1 := ⟨d.pointPlace.toNat - 1, by omega⟩
    have shape : (c :: more).take d.pointPlace.toNat ++ '.' :: (c :: more).drop d.pointPlace.toNat =
        c :: more.take n ++ ('.' :: more.drop n ++ []) := by
      rw [place]
      simp
    have rest : IsDigits (more.drop n) := by
      constructor
      · rw [place, List.length_cons] at inside
        simp only [ne_eq, List.drop_eq_nil_iff]
        omega
      · exact fun d member => later d (List.mem_of_mem_drop member)
    rw [shape]
    exact .parts _ _ _ (begins _ fun d member => later d (List.mem_of_mem_take member))
      (.digits _ rest) .none
  case pos =>
    have shape : "0.".toList ++ zeros (-d.pointPlace).toNat ++ c :: more =
        ['0'] ++ ('.' :: (zeros (-d.pointPlace).toNat ++ c :: more) ++ []) := by simp
    have all := List.forall_mem_append.mpr ⟨isDigit_of_mem_zeros (-d.pointPlace).toNat, digits.all⟩
    rw [front] at all
    rw [shape]
    exact .parts _ _ _ .zero (.digits _ ⟨by simp, all⟩) .none
  case neg =>
    have power := isExponent_toString (d.pointPlace - 1)
    have point : IsFraction (if more.isEmpty then [] else '.' :: more) := by
      split
      · exact .none
      · rename_i some
        exact .digits more ⟨by simpa using some, later⟩
    have shape : (c :: more).take 1 ++ (if ((c :: more).drop 1).isEmpty then [] else
        '.' :: (c :: more).drop 1) ++ 'e' :: (toString (d.pointPlace - 1)).toList =
        [c] ++ ((if more.isEmpty then [] else '.' :: more) ++
          'e' :: (toString (d.pointPlace - 1)).toList) := by
      rw [List.append_assoc]
      rfl
    exact shape ▸ .parts _ _ _ (begins [] nofun) point power

end Decimal

namespace JsonReader

theorem isNumeral_text (n : JsonNumber) :
    IsNumeral n.text ∨ ∃ cs, n.text = '-' :: cs ∧ IsNumeral cs := by
  have whole (n : Nat) : IsNumeral (toString n).toList := by
    have parts := IsNumeral.parts _ [] [] (isWhole_toString n) .none .none
    rwa [List.append_nil, List.append_nil] at parts
  cases n with
  | whole n =>
      cases n with
      | ofNat n => exact .inl (whole n)
      | negSucc n => exact .inr ⟨_, toList_toString_negSucc n, whole (n + 1)⟩
  | binary x =>
      have numeral := (Decimal.shortest x).isNumeral_text
      rw [JsonNumber.text]
      split
      · exact .inr ⟨_, rfl, numeral⟩
      · exact .inl numeral

theorem IsNumeral.head (cs : List Char) (numeral : IsNumeral cs) :
    ∃ c more, cs = c :: more ∧ c.isDigit := by
  cases numeral with
  | parts front fraction exponent whole =>
      cases whole with
      | zero => exact ⟨'0', _, rfl, rfl⟩
      | digits ds digits =>
          obtain ⟨c, more, rfl⟩ := List.exists_cons_of_ne_nil digits.nonempty
          exact ⟨c, _, rfl, digits.all c List.mem_cons_self⟩

end JsonReader

end ProxyCheck
