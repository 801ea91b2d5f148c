import ProxyCheck.Proofs.Text.Visible

/-! What decoding makes of any bytes: each byte of ASCII is a character of its own, wherever it
stands, and nothing else becomes a character of ASCII. -/
namespace ProxyCheck.Utf8

def Partial.least (p : Partial) : Nat :=
  (p.bits * 64 + (p.low.toNat - 0x80)) * 64 ^ (p.owed - 1)

def Partial.beyond (p : Partial) : Nat :=
  (p.bits * 64 + (p.high.toNat - 0x80) + 1) * 64 ^ (p.owed - 1)

structure Partial.Sound (p : Partial) : Prop where
  owed : p.owed = 1 ∨ p.owed = 2 ∨ p.owed = 3
  low : 0x80 ≤ p.low.toNat
  high : p.high.toNat ≤ 0xBF
  order : p.low.toNat ≤ p.high.toNat
  wide : 0x80 ≤ p.least
  valid : p.beyond ≤ 0xD800 ∨ 0xE000 ≤ p.least ∧ p.beyond ≤ 0x110000

theorem sound_two (n : Nat) (low : 0xC2 ≤ n) (high : n < 0xE0) :
    Partial.Sound ⟨n % 32, 1, 0x80, 0xBF⟩ := by
  constructor
  case owed => exact .inl rfl
  case low => dsimp only; decide
  case high => dsimp only; decide
  case order => dsimp only; decide
  case wide =>
    simp only [Partial.least, UInt8.reduceToNat]
    omega
  case valid =>
    simp only [Partial.least, Partial.beyond, UInt8.reduceToNat]
    omega

theorem sound_three (n : Nat) (low : 0xE0 ≤ n) (high : n < 0xF0) :
    Partial.Sound
      ⟨n % 16, 2, if n = 0xE0 then 0xA0 else 0x80, if n = 0xED then 0x9F else 0xBF⟩ := by
  constructor
  case owed => exact .inr (.inl rfl)
  case low => dsimp only; split_ifs <;> decide
  case high => dsimp only; split_ifs <;> decide
  case order =>
    dsimp only
    split_ifs <;> first | decide | omega
  case wide =>
    simp only [Partial.least]
    split_ifs <;> simp only [UInt8.reduceToNat] <;> omega
  case valid =>
    simp only [Partial.least, Partial.beyond]
    split_ifs <;> simp only [UInt8.reduceToNat] <;> omega

theorem sound_four (n : Nat) (low : 0xF0 ≤ n) (high : n < 0xF5) :
    Partial.Sound
      ⟨n % 8, 3, if n = 0xF0 then 0x90 else 0x80, if n = 0xF4 then 0x8F else 0xBF⟩ := by
  constructor
  case owed => exact .inr (.inr rfl)
  case low => dsimp only; split_ifs <;> decide
  case high => dsimp only; split_ifs <;> decide
  case order =>
    dsimp only
    split_ifs <;> first | decide | omega
  case wide =>
    simp only [Partial.least]
    split_ifs <;> simp only [UInt8.reduceToNat] <;> omega
  case valid =>
    simp only [Partial.least, Partial.beyond]
    split_ifs <;> simp only [UInt8.reduceToNat] <;> omega

theorem sound_lead (b : UInt8) (p : Partial) (begun : (lead b).2 = some p) : p.Sound := by
  rw [lead] at begun
  by_cases tail : b.toNat < 0xC2
  · by_cases ascii : b.toNat < 0x80 <;> simp [ascii, tail] at begun
  · have ascii : ¬b.toNat < 0x80 := by omega
    rw [if_neg ascii, if_neg tail] at begun
    split at begun
    case isTrue two =>
      cases begun
      exact sound_two _ (by omega) two
    case isFalse longer =>
      split at begun
      case isTrue three =>
        cases begun
        exact sound_three _ (by omega) three
      case isFalse longer =>
        split at begun
        case isTrue four =>
          cases begun
          exact sound_four _ (by omega) four
        case isFalse => cases begun

theorem narrows_next (p : Partial) (b : UInt8) (low : 0x80 ≤ p.low.toNat ∧ p.low.toNat ≤ b.toNat)
    (high : b.toNat ≤ p.high.toNat ∧ p.high.toNat ≤ 0xBF) (more : 1 < p.owed) :
    p.least ≤ Partial.least ⟨p.bits * 64 + b.toNat % 64, p.owed - 1, 0x80, 0xBF⟩ ∧
      Partial.beyond ⟨p.bits * 64 + b.toNat % 64, p.owed - 1, 0x80, 0xBF⟩ ≤ p.beyond := by
  obtain ⟨k, owed⟩ : ∃ k, p.owed = k + 2 := ⟨p.owed - 2, by omega⟩
  have digit : b.toNat % 64 = b.toNat - 0x80 := by omega
  have power : 64 ^ (k + 2 - 1) = 64 * 64 ^ k := Nat.pow_succ'
  simp only [Partial.least, Partial.beyond, UInt8.reduceToNat, owed, digit, power]
  have shorter : k + 2 - 1 - 1 = k := rfl
  rw [shorter, ← Nat.mul_assoc, ← Nat.mul_assoc]
  exact ⟨Nat.mul_le_mul_right _ (by omega), Nat.mul_le_mul_right _ (by omega)⟩

theorem sound_next (p : Partial) (b : UInt8) (sound : p.Sound) (low : p.low.toNat ≤ b.toNat)
    (high : b.toNat ≤ p.high.toNat) (more : 1 < p.owed) :
    Partial.Sound ⟨p.bits * 64 + b.toNat % 64, p.owed - 1, 0x80, 0xBF⟩ := by
  obtain ⟨least, beyond⟩ := narrows_next p b ⟨sound.low, low⟩ ⟨high, sound.high⟩ more
  constructor
  case owed =>
    have owed := sound.owed
    dsimp only
    omega
  case low => exact Nat.le_refl 0x80
  case high => exact Nat.le_refl 0xBF
  case order => exact Nat.le_of_ble_eq_true rfl
  case wide => exact Nat.le_trans sound.wide least
  case valid =>
    rcases sound.valid with below | ⟨above, below⟩
    · exact .inl (Nat.le_trans beyond below)
    · exact .inr ⟨Nat.le_trans above least, Nat.le_trans beyond below⟩

theorem wide_last (p : Partial) (b : UInt8) (sound : p.Sound) (low : p.low.toNat ≤ b.toNat)
    (high : b.toNat ≤ p.high.toNat) (last : p.owed ≤ 1) :
    0x80 ≤ (Char.ofNat (p.bits * 64 + b.toNat % 64)).toNat := by
  obtain ⟨owed, bottom, top, -, wide, valid⟩ := sound
  have digit : b.toNat % 64 = b.toNat - 0x80 := by omega
  have one : p.owed = 1 := by omega
  simp only [Partial.least, Partial.beyond, one, Nat.sub_self, Nat.pow_zero, Nat.mul_one]
    at wide valid
  have proper : (p.bits * 64 + (b.toNat - 0x80)).isValidChar := by
    rcases valid with below | ⟨above, below⟩
    · exact .inl (by omega)
    · exact .inr ⟨by omega, by omega⟩
  rw [digit, Char.toNat_ofNat, if_pos proper]
  omega

theorem feed_ascii (state : Option Partial) (b : UInt8) (sound : ∀ p, state = some p → p.Sound)
    (ascii : b.toNat < 0x80) :
    feed state b =
      ((state.map fun _ => Piece.invalid).toList ++ [.char (Char.ofNat b.toNat)], none) := by
  have begins : lead b = ([.char (Char.ofNat b.toNat)], none) := if_pos ascii
  cases state with
  | none => exact begins
  | some p =>
      have outside : ¬p.low ≤ b := fun low => by
        have bound := UInt8.le_iff_toNat_le.mp low
        have wide := (sound p rfl).low
        omega
      simp [feed, outside, begins]

theorem sound_feed (state : Option Partial) (b : UInt8) (sound : ∀ p, state = some p → p.Sound)
    (q : Partial) (left : (feed state b).2 = some q) : q.Sound := by
  cases state with
  | none => exact sound_lead b q left
  | some p =>
      rw [feed] at left
      split at left
      case isTrue inside =>
        simp only [Bool.and_eq_true, decide_eq_true_eq, UInt8.le_iff_toNat_le] at inside
        split at left
        case isTrue last => cases left
        case isFalse more =>
          cases left
          exact sound_next p b (sound p rfl) inside.1 inside.2 (by omega)
      case isFalse outside => exact sound_lead b q left

theorem char_of_feed (state : Option Partial) (b : UInt8) (c : Char)
    (sound : ∀ p, state = some p → p.Sound) (member : .char c ∈ (feed state b).1)
    (ascii : c.toNat < 0x80) : b.toNat = c.toNat := by
  have begun (member : .char c ∈ (lead b).1) : b.toNat = c.toNat := by
    by_cases small : b.toNat < 0x80
    · rw [lead, if_pos small, List.mem_singleton] at member
      cases member
      rw [Char.toNat_ofNat, if_pos (.inl (by omega))]
    · rw [lead, if_neg small] at member
      grind
  cases state with
  | none => exact begun member
  | some p =>
      rw [feed] at member
      split at member
      case isTrue inside =>
        simp only [Bool.and_eq_true, decide_eq_true_eq, UInt8.le_iff_toNat_le] at inside
        split at member
        case isTrue last =>
          rw [List.mem_singleton] at member
          cases member
          have wide := wide_last p b (sound p rfl) inside.1 inside.2 last
          omega
        case isFalse more => cases member
      case isFalse outside =>
        rcases List.mem_cons.mp member with broken | member
        · cases broken
        · exact begun member

theorem piecesFrom_cons (state : Option Partial) (b : UInt8) (bytes : List UInt8) :
    piecesFrom state (b :: bytes) = (feed state b).1 ++ piecesFrom (feed state b).2 bytes := by
  cases state <;> rfl

theorem piecesFrom_nil (state : Option Partial) :
    piecesFrom state [] = (state.map fun _ => Piece.invalid).toList := by
  cases state <;> rfl

theorem piecesFrom_append_ascii (state : Option Partial) (front rest : List UInt8) (b : UInt8)
    (sound : ∀ p, state = some p → p.Sound) (ascii : b.toNat < 0x80) :
    piecesFrom state (front ++ b :: rest) =
      piecesFrom state front ++ .char (Char.ofNat b.toNat) :: pieces rest := by
  induction front generalizing state with
  | nil =>
      rw [List.nil_append, piecesFrom_cons, feed_ascii state b sound ascii, piecesFrom_nil,
        List.append_assoc]
      rfl
  | cons x front ih =>
      rw [List.cons_append, piecesFrom_cons, piecesFrom_cons, ih _ (sound_feed state x sound),
        List.append_assoc]

/-- A byte of ASCII parts a text: what is before it and what is after it are decoded apart. -/
theorem decodeLossy_append_ascii (front rest : List UInt8) (b : UInt8) (ascii : b.toNat < 0x80) :
    decodeLossy (front ++ b :: rest) =
      decodeLossy front ++ Char.ofNat b.toNat :: decodeLossy rest := by
  have sound : ∀ p, none = some p → Partial.Sound p := fun p same => by cases same
  rw [decodeLossy, pieces, piecesFrom_append_ascii none front rest b sound ascii, List.map_append]
  rfl

theorem mem_of_char_mem (state : Option Partial) (bytes : List UInt8) (c : Char)
    (sound : ∀ p, state = some p → p.Sound) (member : .char c ∈ piecesFrom state bytes)
    (ascii : c.toNat < 0x80) : ∃ b ∈ bytes, b.toNat = c.toNat := by
  induction bytes generalizing state with
  | nil => cases state <;> simp [piecesFrom] at member
  | cons b bytes ih =>
      rw [piecesFrom_cons, List.mem_append] at member
      rcases member with here | later
      · exact ⟨b, List.mem_cons_self, char_of_feed state b c sound here ascii⟩
      · obtain ⟨x, present, same⟩ := ih _ (sound_feed state b sound) later
        exact ⟨x, List.mem_cons_of_mem b present, same⟩

theorem mem_decodeLossy_iff (c : Char) (bytes : List UInt8) (ascii : c.toNat < 0x80) :
    c ∈ decodeLossy bytes ↔ UInt8.ofNat c.toNat ∈ bytes := by
  have small : c.toNat < UInt8.size := Nat.lt_trans ascii (by decide)
  have byte : (UInt8.ofNat c.toNat).toNat = c.toNat := UInt8.toNat_ofNat_of_lt' small
  constructor
  · intro member
    obtain ⟨piece, found, shown⟩ := List.mem_map.mp member
    cases piece with
    | invalid =>
        rw [← shown] at ascii
        exact absurd ascii (by decide)
    | char d =>
        have same : d = c := shown
        rw [same] at found
        obtain ⟨b, present, same⟩ := mem_of_char_mem none bytes c nofun found ascii
        rw [← same, UInt8.ofNat_toNat]
        exact present
  · intro member
    obtain ⟨front, rest, rfl⟩ := List.append_of_mem member
    rw [decodeLossy_append_ascii front rest _ (by rw [byte]; exact ascii), byte, Char.ofNat_toNat]
    exact List.mem_append_right _ List.mem_cons_self

theorem toNat_ofNat_ascii (b : UInt8) (ascii : b.toNat < 0x80) :
    (Char.ofNat b.toNat).toNat = b.toNat := by
  rw [Char.toNat_ofNat, if_pos (.inl (by omega))]

theorem ofNat_mem_decodeLossy_iff (b : UInt8) (bytes : List UInt8) (ascii : b.toNat < 0x80) :
    Char.ofNat b.toNat ∈ decodeLossy bytes ↔ b ∈ bytes := by
  have same := toNat_ofNat_ascii b ascii
  rw [mem_decodeLossy_iff _ bytes (by rwa [same]), same, UInt8.ofNat_toNat]

theorem of_feed_ascii (state : Option Partial) (b : UInt8) (sound : ∀ p, state = some p → p.Sound)
    (ascii : ∀ piece ∈ (feed state b).1, piece.display.toNat < 0x80)
    (complete : (feed state b).2 = none) : state = none ∧ b.toNat < 0x80 := by
  have broken : ¬(Piece.invalid.display.toNat < 0x80) := by decide
  cases state with
  | none =>
      refine ⟨rfl, ?_⟩
      by_contra wide
      rw [feed, lead, if_neg wide] at ascii complete
      grind
  | some p =>
      rw [feed] at ascii complete
      split at complete
      case isTrue inside =>
        rw [if_pos inside] at ascii
        simp only [Bool.and_eq_true, decide_eq_true_eq, UInt8.le_iff_toNat_le] at inside
        split at complete
        case isTrue last =>
          rw [if_pos last] at ascii
          have narrow := ascii _ List.mem_cons_self
          have wide := wide_last p b (sound p rfl) inside.1 inside.2 last
          exact absurd narrow (Nat.not_lt_of_le wide)
        case isFalse more => cases complete
      case isFalse outside =>
        rw [if_neg outside] at ascii
        exact absurd (ascii _ List.mem_cons_self) broken

theorem ascii_of_piecesFrom (state : Option Partial) (bytes : List UInt8)
    (sound : ∀ p, state = some p → p.Sound)
    (ascii : ∀ piece ∈ piecesFrom state bytes, piece.display.toNat < 0x80) :
    state = none ∧ ∀ b ∈ bytes, b.toNat < 0x80 := by
  induction bytes generalizing state with
  | nil =>
      cases state with
      | none => exact ⟨rfl, nofun⟩
      | some p => exact absurd (ascii .invalid List.mem_cons_self) (by decide)
  | cons b bytes ih =>
      rw [piecesFrom_cons] at ascii
      obtain ⟨complete, rest⟩ := ih _ (sound_feed state b sound) fun piece member =>
        ascii piece (List.mem_append_right _ member)
      obtain ⟨none, first⟩ := of_feed_ascii state b sound
        (fun piece member => ascii piece (List.mem_append_left _ member)) complete
      refine ⟨none, fun x member => ?_⟩
      rcases List.mem_cons.mp member with rfl | member
      · exact first
      · exact rest x member

theorem ascii_of_decodeLossy (bytes : List UInt8)
    (ascii : ∀ c ∈ decodeLossy bytes, c.toNat < 0x80) : ∀ b ∈ bytes, b.toNat < 0x80 :=
  (ascii_of_piecesFrom none bytes nofun fun _ member => ascii _ (List.mem_map_of_mem member)).2

end ProxyCheck.Utf8
