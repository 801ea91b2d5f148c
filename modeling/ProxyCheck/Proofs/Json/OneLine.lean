import ProxyCheck.Json.Writer
import ProxyCheck.Proofs.Text.Digits
import ProxyCheck.Proofs.Text.Visible

/-! JSON is written on one line. -/
namespace ProxyCheck

theorem newline_not_mem_toString (n : Nat) : '\n' ∉ (toString n).toList := by
  intro member
  have digit := isDigit_of_mem_toString n '\n' member
  cases digit

theorem newline_not_mem_toString_int (n : Int) : '\n' ∉ (toString n).toList := by
  cases n with
  | ofNat n => exact newline_not_mem_toString n
  | negSucc n =>
      rw [toList_toString_negSucc, List.mem_cons, not_or]
      exact ⟨by decide, newline_not_mem_toString (n + 1)⟩

theorem Decimal.newline_not_mem_text (d : Decimal) : '\n' ∉ d.text := by
  have digits : '\n' ∉ d.digitText := newline_not_mem_toString d.digits
  have zeros (n : Nat) : '\n' ∉ zeros n := fun member => by
    have same := List.eq_of_mem_replicate member
    cases same
  have front (n : Nat) : '\n' ∉ d.digitText.take n := fun member =>
    digits (List.mem_of_mem_take member)
  have back (n : Nat) : '\n' ∉ d.digitText.drop n := fun member =>
    digits (List.mem_of_mem_drop member)
  have tail : '\n' ∉ d.digitText.tail := fun member => digits (List.mem_of_mem_tail member)
  have place : '\n' ∉ (d.pointPlace - 1).repr.toList := newline_not_mem_toString_int _
  simp only [text]
  split_ifs <;> simp [digits, zeros, front, back, tail, place]

theorem JsonNumber.newline_not_mem_text (n : JsonNumber) : '\n' ∉ n.text := by
  cases n with
  | whole n => exact newline_not_mem_toString_int n
  | binary x =>
      have decimal := (Decimal.shortest x).newline_not_mem_text
      rw [text]
      split <;> simp [decimal]

namespace Json

theorem newline_not_mem_escapeChar (c : Char) : '\n' ∉ escapeChar c := by
  rw [escapeChar]
  split
  · rename_i letter short
    have known : letter ≠ '\n' := by
      rw [shortEscape?.eq_def] at short
      split at short <;> cases short <;> decide
    simp [known.symm]
  · rename_i long
    split
    · rename_i control
      have all : ∀ n, n < 0x20 → '\n' ∉ "\\u00".toList ++ [hexDigit (n / 16), hexDigit (n % 16)] := by
        decide
      exact all c.toNat control
    · intro member
      rw [← List.mem_singleton.mp member] at long
      cases long

theorem newline_not_mem_quote (text : String) : '\n' ∉ quote text := by
  intro member
  simp only [quote, List.cons_append, List.mem_cons, List.mem_append, List.mem_flatMap,
    List.not_mem_nil, or_false] at member
  rcases member with quote | ⟨c, -, escaped⟩ | quote
  · cases quote
  · exact newline_not_mem_escapeChar c escaped
  · cases quote

theorem newline_not_mem_separated (items : List (List Char)) (all : ∀ item ∈ items, '\n' ∉ item) :
    '\n' ∉ separated items := by
  induction items with
  | nil => exact List.not_mem_nil
  | cons item rest ih =>
      have here := all item List.mem_cons_self
      have later := ih fun other member => all other (List.mem_cons_of_mem item member)
      cases rest with
      | nil => exact here
      | cons next rest =>
          rw [separated]
          · simp [here, later]
          · exact nofun

mutual

theorem newline_not_mem_chars : (j : Json) → '\n' ∉ j.chars
  | .null => by decide
  | .bool b => by cases b <;> decide
  | .number n => by
      rw [chars]
      exact n.newline_not_mem_text
  | .string text => by
      rw [chars]
      exact newline_not_mem_quote text
  | .array items => by
      have inside := newline_not_mem_separated _ (newline_not_mem_itemChars items)
      rw [chars]
      simp [inside]
  | .object members => by
      have inside := newline_not_mem_separated _ (newline_not_mem_memberChars members)
      rw [chars]
      simp [inside]

theorem newline_not_mem_itemChars : (items : List Json) → ∀ item ∈ itemChars items, '\n' ∉ item
  | [] => nofun
  | j :: rest => by
      have here := newline_not_mem_chars j
      have later := newline_not_mem_itemChars rest
      rw [itemChars]
      exact List.forall_mem_cons.mpr ⟨here, later⟩

theorem newline_not_mem_memberChars :
    (members : List (String × Json)) → ∀ member ∈ memberChars members, '\n' ∉ member
  | [] => nofun
  | (key, value) :: rest => by
      have name := newline_not_mem_quote key
      have here := newline_not_mem_chars value
      have later := newline_not_mem_memberChars rest
      rw [memberChars]
      exact List.forall_mem_cons.mpr ⟨by simp [name, here], later⟩

end

end Json

end ProxyCheck
