import ProxyCheck.Probe.Outcome
import ProxyCheck.Proofs.Text.Pieces

/-! The text of a body is what the body says, but for the line breaks at its end. -/
namespace ProxyCheck

open Utf8 (Piece Parsed encode decodeLossy decodeLossy_encode parsed_iff)

def EndsClear (text : List Char) : Prop :=
  ∀ c, text.getLast? = some c → isLineBreak c = false

instance (text : List Char) : Decidable (EndsClear text) :=
  decidable_of_iff (text.getLast?.all fun c => !isLineBreak c) (by simp [EndsClear, Option.all_eq_true])

theorem endsClear_bodyText (body : List UInt8) : EndsClear (bodyText body).toList := by
  intro c last
  rw [bodyText, String.toList_ofList] at last
  exact getLast?_dropTrailing isLineBreak _ c last

/-- A text that is sent as a body is read as it, without the line breaks that are sent after it. -/
theorem bodyText_encode (text : String) (breaks : List Char) (clear : EndsClear text.toList)
    (all : ∀ c ∈ breaks, isLineBreak c) : bodyText (encode (text.toList ++ breaks)) = text := by
  rw [bodyText, decodeLossy_encode, dropTrailing_append_all isLineBreak _ breaks clear all,
    String.ofList_toList]

/-- The text of a body does not end in a line break, and is the text of its own bytes. No text is lost
or altered but for the line breaks at its end. Any body falls into characters and broken pieces in one
way, and its text is what these are shown as, up to the line breaks at the end. -/
theorem bodyText_exact (body : List UInt8) :
    EndsClear (bodyText body).toList ∧
      bodyText (encode (bodyText body).toList) = bodyText body ∧
      (∀ (text : String) (breaks : List Char), EndsClear text.toList →
        (∀ c ∈ breaks, isLineBreak c) → bodyText (encode (text.toList ++ breaks)) = text) ∧
      ∃ pieces breaks, (∀ ps, Parsed body ps ↔ ps = pieces) ∧
        pieces.map Piece.display = (bodyText body).toList ++ breaks ∧ ∀ c ∈ breaks, isLineBreak c := by
  have clear := endsClear_bodyText body
  have again := bodyText_encode (bodyText body) [] clear nofun
  rw [List.append_nil] at again
  obtain ⟨breaks, whole, all⟩ := dropTrailing_append isLineBreak (decodeLossy body)
  refine ⟨clear, again, bodyText_encode, Utf8.pieces body, breaks, parsed_iff body, ?_, all⟩
  rw [bodyText, String.toList_ofList]
  exact whole

/-- The euro sign without its last byte, and line breaks of both kinds. -/
theorem bodyText_exact_cut :
    bodyText (encode ("42".toList ++ ['\r', '\n', '\n'])) = "42" ∧
      ∃ pieces breaks, (∀ ps, Parsed [0x34, 0x32, 0xE2, 0x82, 0x0D, 0x0A] ps ↔ ps = pieces) ∧
        pieces.map Piece.display = ['4', '2', '\uFFFD'] ++ breaks ∧ ∀ c ∈ breaks, isLineBreak c := by
  obtain ⟨-, -, sent, pieces, breaks, only, shown, all⟩ :=
    bodyText_exact [0x34, 0x32, 0xE2, 0x82, 0x0D, 0x0A]
  have text : (bodyText [0x34, 0x32, 0xE2, 0x82, 0x0D, 0x0A]).toList = ['4', '2', '\uFFFD'] := by
    decide
  rw [text] at shown
  exact ⟨sent "42" ['\r', '\n', '\n'] (by decide) (by simp [isLineBreak]), pieces, breaks, only,
    shown, all⟩

end ProxyCheck
