import ProxyCheck.Json.Record
import ProxyCheck.Json.Writer
import ProxyCheck.Proofs.Text.Digits
import ProxyCheck.Proofs.Text.Visible

/-! Strings and whole numbers are read back as they were written, whatever follows them. -/
namespace ProxyCheck

namespace JsonReader

theorem hexUnit_small (n : Nat) (rest : List Char) (small : n < 0x20) :
    hexUnit ('0' :: '0' :: hexDigit (n / 16) :: hexDigit (n % 16) :: rest) = .ok n := by
  have value : ∀ m, m < 0x20 →
      (['0', '0', hexDigit (m / 16), hexDigit (m % 16)].all isHex = true ∧
        digitsValue 16 ['0', '0', hexDigit (m / 16), hexDigit (m % 16)] = m) := by decide
  obtain ⟨hex, value⟩ := value n small
  rw [hexUnit]
  exact (if_pos ⟨rfl, hex⟩).trans (congrArg Except.ok value)

theorem unicodeEscape_small (n : Nat) (rest : List Char) (small : n < 0x20) :
    unicodeEscape ('0' :: '0' :: hexDigit (n / 16) :: hexDigit (n % 16) :: rest) =
      .ok (Char.ofNat n, 4) := by
  rw [unicodeEscape, hexUnit_small n rest small]
  simp only [bind, Except.bind]
  rw [if_neg (by omega), if_pos (by omega)]
  rfl

theorem escaped?_shortEscape (c letter : Char) (short : Json.shortEscape? c = some letter) :
    escaped? letter = some c ∧ letter ≠ 'u' := by
  rw [Json.shortEscape?.eq_def] at short
  split at short <;> cases short <;> decide

theorem stringChars_shortEscape (c letter : Char) (rest : List Char)
    (short : Json.shortEscape? c = some letter) :
    stringChars ('\\' :: letter :: rest) = prepend c (stringChars rest) := by
  obtain ⟨known, other⟩ := escaped?_shortEscape c letter short
  rw [stringChars]
  · rw [known]
  · exact other

theorem stringChars_escapeChar (c : Char) (rest : List Char) :
    stringChars (Json.escapeChar c ++ rest) = prepend c (stringChars rest) := by
  rw [Json.escapeChar]
  split
  · rename_i letter short
    exact stringChars_shortEscape c letter rest short
  · rename_i long
    split
    · rename_i control
      have same : "\\u00".toList ++ [hexDigit (c.toNat / 16), hexDigit (c.toNat % 16)] ++ rest =
          '\\' :: 'u' :: '0' :: '0' :: hexDigit (c.toNat / 16) :: hexDigit (c.toNat % 16) :: rest := rfl
      rw [same, stringChars, unicodeEscape_small c.toNat rest control, Char.ofNat_toNat]
      rfl
    · rw [stringChars.eq_def]
      split <;> simp_all [Json.shortEscape?]

theorem stringChars_escaped (text rest : List Char) :
    stringChars (text.flatMap Json.escapeChar ++ '"' :: rest) = .ok (text, rest) := by
  induction text with
  | nil => rw [List.flatMap_nil, List.nil_append, stringChars]
  | cons c text ih =>
      rw [List.flatMap_cons, List.append_assoc, stringChars_escapeChar, ih]
      rfl

theorem string_escaped (text : String) (rest : List Char) :
    string (text.toList.flatMap Json.escapeChar ++ '"' :: rest) = .ok (text, rest) := by
  rw [string, stringChars_escaped]
  exact congrArg (fun text => Except.ok (text, rest)) String.ofList_toList

theorem quote_append (text : String) (rest : List Char) :
    Json.quote text ++ rest = '"' :: (text.toList.flatMap Json.escapeChar ++ '"' :: rest) := by
  simp [Json.quote]

def EndsValue (rest : List Char) : Prop :=
  rest.head? = some ',' ∨ rest.head? = some '\x7D' ∨ rest.head? = some ']'

theorem le_foldl_digits (start : Nat) (digits : List Char) :
    start ≤ digits.foldl (fun n c => n * 10 + digit c) start := by
  induction digits generalizing start with
  | nil => exact Nat.le_refl start
  | cons c digits ih => exact Nat.le_trans (by omega) (ih (start * 10 + digit c))

theorem absorb_digits (start : Nat) (digits rest : List Char) (all : ∀ c ∈ digits, c.isDigit)
    (stops : rest.head?.all (!Char.isDigit ·))
    (fits : digits.foldl (fun n c => n * 10 + digit c) start < UInt64.size) :
    absorb start (digits ++ rest) =
      (digits.foldl (fun n c => n * 10 + digit c) start, digits.length, rest) := by
  induction digits generalizing start with
  | nil =>
      cases rest with
      | nil => rfl
      | cons c rest =>
          have other : c.isDigit = false := by simpa using stops
          rw [List.nil_append, absorb, if_neg (by simp [other])]
          rfl
  | cons c digits ih =>
      have here : start * 10 + digit c < UInt64.size :=
        Nat.lt_of_le_of_lt (le_foldl_digits _ digits) fits
      rw [List.cons_append, absorb, if_pos ⟨all c List.mem_cons_self, here⟩,
        ih _ (fun d member => all d (List.mem_cons_of_mem c member)) fits]
      rfl

theorem of_endsValue (rest : List Char) (ends : EndsValue rest) :
    ∃ c tail, rest = c :: tail ∧ c.isDigit = false ∧ c ≠ '.' ∧ isExponentMark c = false := by
  cases rest with
  | nil => rcases ends with none | none | none <;> cases none
  | cons c tail =>
      refine ⟨c, tail, rfl, ?_⟩
      rcases ends with comma | brace | bracket
      · cases Option.some.inj comma
        decide
      · cases Option.some.inj brace
        decide
      · cases Option.some.inj bracket
        decide

theorem numberTail_whole (n : Nat) (rest : List Char) (ends : EndsValue rest) :
    numberTail false n 0 rest = .ok (.whole n, rest) := by
  obtain ⟨c, tail, rfl, -, point, mark⟩ := of_endsValue rest ends
  rw [numberTail.eq_def]
  split
  · rename_i same
    cases same
    exact absurd rfl point
  · simp [mark, whole]

theorem signedNumber_natural (n : Nat) (rest : List Char) (fits : n < UInt64.size)
    (ends : EndsValue rest) :
    signedNumber (Nat.toDigits 10 n ++ rest) = .ok (.whole n, rest) := by
  have digits : ∀ c ∈ Nat.toDigits 10 n, c.isDigit := fun c member =>
    Nat.isDigit_of_mem_toDigits (by decide) (by decide) member
  have value : (Nat.toDigits 10 n).foldl (fun n c => n * 10 + digit c) 0 = n :=
    digitsValue_toDigits 10 n (by decide) (by decide)
  obtain ⟨d, tail, last, other, -⟩ := of_endsValue rest ends
  have stops : rest.head?.all (!Char.isDigit ·) := by simp [last, other]
  have taken := absorb_digits 0 (Nat.toDigits 10 n) rest digits stops (by rw [value]; exact fits)
  have none : rest.takeWhile Char.isDigit = [] ∧ rest.dropWhile Char.isDigit = rest := by
    simp [last, other]
  rw [value] at taken
  by_cases zero : n = 0
  · have start : startsWithDigit rest = false := by simp [startsWithDigit, last, other]
    rw [zero, Nat.toDigits_zero, List.singleton_append, signedNumber, number, start]
    · exact numberTail_whole 0 rest ends
    · exact nofun
  · obtain ⟨c, digits', front⟩ := List.exists_cons_of_ne_nil (Nat.toDigits_ne_nil (n := n) (b := 10))
    have first := head?_toDigits n (Nat.pos_of_ne_zero zero)
    have here := digits c (front ▸ List.mem_cons_self)
    rw [front] at taken first ⊢
    rw [List.cons_append] at taken ⊢
    rw [signedNumber, number, if_pos here, taken]
    · simp only [none]
      exact numberTail_whole n rest ends
    · exact fun same => first (congrArg some same)
    · intro after minus
      rw [(List.cons.inj minus).1] at here
      cases here

/-- A text, a number that fits 64 bits without a sign, a truth value or nothing. -/
inductive IsScalar : Json → Prop where
  | null : IsScalar .null
  | bool (b : Bool) : IsScalar (.bool b)
  | text (text : String) : IsScalar (.string text)
  | natural (n : Nat) (fits : n < UInt64.size) : IsScalar (Json.natural n)

theorem chars_natural (n : Nat) : (Json.natural n).chars = Nat.toDigits 10 n := by
  rw [Json.natural, Json.chars, JsonNumber.text]
  exact toList_toString n

theorem skipBlanks_cons (c : Char) (rest : List Char) (visible : isBlank c = false) :
    skipBlanks (c :: rest) = c :: rest :=
  List.dropWhile_cons_of_neg (by simp [visible])

theorem exists_digit (n : Nat) :
    ∃ c, c.isDigit ∧ ∃ more, Nat.toDigits 10 n = c :: more := by
  obtain ⟨c, more, front⟩ := List.exists_cons_of_ne_nil (Nat.toDigits_ne_nil (n := n) (b := 10))
  have digit : c.isDigit :=
    Nat.isDigit_of_mem_toDigits (by decide) (by decide) (front ▸ List.mem_cons_self)
  exact ⟨c, digit, more, front⟩

theorem blank_of_isDigit (c : Char) (digit : c.isDigit) : isBlank c = false := by
  rw [Bool.eq_false_iff]
  intro blank
  simp only [isBlank, Bool.or_eq_true, beq_iff_eq] at blank
  rcases blank with ((rfl | rfl) | rfl) | rfl <;> cases digit

/-- What begins with a digit is a number. -/
theorem valueOver_digit (size : Nat) (inner : Option (JsonReader Json)) (c : Char)
    (cs : List Char) (digit : c.isDigit) :
    valueOver size inner (c :: cs) =
      (signedNumber (c :: cs)).map fun (n, rest) => (.number n, rest) := by
  rw [valueOver.eq_def, skipBlanks_cons c cs (blank_of_isDigit c digit)]
  split
  case h_8 same =>
    cases same
    rw [if_pos (.inr digit)]
    cases signedNumber (c :: cs) <;> rfl
  all_goals
    rename_i same
    cases same
  all_goals cases digit

theorem valueOver_scalar (size : Nat) (inner : Option (JsonReader Json)) (j : Json)
    (scalar : IsScalar j) (rest : List Char) (ends : EndsValue rest) :
    valueOver size inner (j.chars ++ rest) = .ok (j, rest) := by
  cases scalar with
  | null => rfl
  | bool b => cases b <;> rfl
  | text text =>
      rw [Json.chars, quote_append, valueOver, skipBlanks_cons '"' _ rfl]
      simp only [string_escaped]
      rfl
  | natural n fits =>
      have read := signedNumber_natural n rest fits ends
      obtain ⟨c, digit, more, front⟩ := exists_digit n
      rw [chars_natural]
      rw [front, List.cons_append] at read ⊢
      rw [valueOver_digit size inner c _ digit, read]
      rfl

end JsonReader

end ProxyCheck
