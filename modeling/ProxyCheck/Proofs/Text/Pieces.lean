import ProxyCheck.Proofs.Text.Utf8

/-! The pieces that bytes fall into: characters, and where no character stands, the longest beginning
of one. -/
namespace ProxyCheck.Utf8

def tailBytes : Nat → Nat → List UInt8
  | 0, _ => []
  | k + 1, n => UInt8.ofNat (n / 64 ^ k % 64 + 0x80) :: tailBytes k n

theorem length_tailBytes (k n : Nat) : (tailBytes k n).length = k := by
  induction k with
  | zero => rfl
  | succ k ih => rw [tailBytes, List.length_cons, ih]

theorem toNat_tailByte (d : Nat) : (UInt8.ofNat (d % 64 + 0x80)).toNat = d % 64 + 0x80 :=
  UInt8.toNat_ofNat_of_lt' (by simp only [UInt8.size]; omega)

namespace Partial

def Meets (p : Partial) (n : Nat) : Prop :=
  p.least ≤ n ∧ n < p.beyond

def next (p : Partial) (b : UInt8) : Partial :=
  ⟨p.bits * 64 + b.toNat % 64, p.owed - 1, 0x80, 0xBF⟩

def Takes (p : Partial) (b : UInt8) : Prop :=
  p.low.toNat ≤ b.toNat ∧ b.toNat ≤ p.high.toNat

end Partial

theorem digit_of_meets (p : Partial) (n k : Nat) (sound : p.Sound) (owed : p.owed = k + 1)
    (meets : p.Meets n) :
    p.Takes (UInt8.ofNat (n / 64 ^ k % 64 + 0x80)) ∧ n / 64 ^ k = p.bits * 64 + n / 64 ^ k % 64 := by
  have power : 0 < 64 ^ k := Nat.pow_pos (by decide)
  have low := sound.low
  have high := sound.high
  have order := sound.order
  obtain ⟨least, beyond⟩ := meets
  rw [Partial.least, owed, Nat.add_sub_cancel] at least
  rw [Partial.beyond, owed, Nat.add_sub_cancel] at beyond
  have lower := (Nat.le_div_iff_mul_le power).mpr least
  have upper := (Nat.div_lt_iff_lt_mul power).mpr beyond
  rw [Partial.Takes, toNat_tailByte]
  omega

theorem meets_next (p : Partial) (n k : Nat) (sound : p.Sound) (owed : p.owed = k + 2)
    (meets : p.Meets n) : (p.next (UInt8.ofNat (n / 64 ^ (k + 1) % 64 + 0x80))).Meets n := by
  obtain ⟨-, digits⟩ := digit_of_meets p n (k + 1) sound owed meets
  have split := Nat.div_add_mod n (64 ^ (k + 1))
  have small := Nat.mod_lt n (Nat.pow_pos (by decide : 0 < 64) (n := k + 1))
  have shorter : k + 2 - 1 - 1 = k := rfl
  have residue : (n / 64 ^ (k + 1) % 64 + 0x80) % 64 = n / 64 ^ (k + 1) % 64 := by omega
  have least : (n / 64 ^ (k + 1) * 64 + 0) * 64 ^ k = 64 ^ (k + 1) * (n / 64 ^ (k + 1)) := by ring
  have beyond : (n / 64 ^ (k + 1) * 64 + 63 + 1) * 64 ^ k =
      64 ^ (k + 1) * (n / 64 ^ (k + 1)) + 64 ^ (k + 1) := by ring
  rw [Partial.next, toNat_tailByte, residue, ← digits]
  simp only [Partial.Meets, Partial.least, Partial.beyond, UInt8.reduceToNat, owed, shorter]
  rw [Nat.sub_self, least, beyond]
  omega

theorem feed_takes (p : Partial) (b : UInt8) (takes : p.Takes b) :
    feed (some p) b =
      if p.owed ≤ 1 then ([.char (Char.ofNat (p.bits * 64 + b.toNat % 64))], none)
      else ([], some (p.next b)) := by
  have inside : (decide (p.low ≤ b) && decide (b ≤ p.high)) = true := by
    simp only [Bool.and_eq_true, decide_eq_true_eq, UInt8.le_iff_toNat_le]
    exact takes
  rw [feed, if_pos inside]
  rfl

theorem feed_refuses (p : Partial) (b : UInt8) (refuses : ¬p.Takes b) :
    feed (some p) b = (.invalid :: (lead b).1, (lead b).2) := by
  have outside : ¬(decide (p.low ≤ b) && decide (b ≤ p.high)) = true := by
    simp only [Bool.and_eq_true, decide_eq_true_eq, UInt8.le_iff_toNat_le]
    exact refuses
  rw [feed, if_neg outside]

theorem piecesFrom_tailBytes (p : Partial) (c : Char) (rest : List UInt8) (k : Nat) (sound : p.Sound)
    (owed : p.owed = k + 1) (meets : p.Meets c.toNat) :
    piecesFrom (some p) (tailBytes (k + 1) c.toNat ++ rest) = .char c :: pieces rest := by
  induction k generalizing p with
  | zero =>
      obtain ⟨takes, digits⟩ := digit_of_meets p c.toNat 0 sound owed meets
      rw [Nat.pow_zero, Nat.div_one] at takes digits
      have residue : (c.toNat % 64 + 0x80) % 64 = c.toNat % 64 := by omega
      rw [tailBytes, tailBytes, Nat.pow_zero, Nat.div_one, List.singleton_append, piecesFrom_cons,
        feed_takes p _ takes, if_pos (Nat.le_of_eq owed), toNat_tailByte, residue, ← digits,
        Char.ofNat_toNat]
      rfl
  | succ k ih =>
      obtain ⟨takes, -⟩ := digit_of_meets p c.toNat (k + 1) sound owed meets
      have more : 1 < p.owed := by omega
      have later := ih (p.next (UInt8.ofNat (c.toNat / 64 ^ (k + 1) % 64 + 0x80)))
        (sound_next p _ sound takes.1 takes.2 more) (by rw [Partial.next, owed]; rfl)
        (meets_next p c.toNat k sound owed meets)
      rw [tailBytes, List.cons_append, piecesFrom_cons, feed_takes p _ takes,
        if_neg (Nat.not_le.mpr more)]
      exact later

theorem valid_toNat (c : Char) : c.toNat < 0xD800 ∨ 0xDFFF < c.toNat ∧ c.toNat < 0x110000 :=
  c.valid

theorem lead_wide (c : Char) (wide : 0x80 ≤ c.toNat) :
    ∃ b p, lead b = ([], some p) ∧ p.Meets c.toNat ∧
      String.utf8EncodeChar c = b :: tailBytes p.owed c.toNat := by
  have large : ¬c.val.toNat ≤ 0x7F := Nat.not_le_of_lt wide
  have valid := valid_toNat c
  have same : c.val.toNat = c.toNat := rfl
  simp only [String.utf8EncodeChar, if_neg large]
  rw [same] at large ⊢
  generalize c.toNat = v at wide valid large
  split
  case isTrue two =>
    have byte : (UInt8.ofNat (v / 64 % 0x20 + 0xC0)).toNat = v / 64 % 0x20 + 0xC0 :=
      UInt8.toNat_ofNat_of_lt' (by simp only [UInt8.size]; omega)
    refine ⟨UInt8.ofNat (v / 64 % 0x20 + 0xC0), ⟨(v / 64 % 0x20 + 0xC0) % 32, 1, 0x80, 0xBF⟩, ?_, ?_,
      by simp [tailBytes]⟩
    · rw [lead, byte, if_neg (by omega), if_neg (by omega), if_pos (by omega)]
    · simp only [Partial.Meets, Partial.least, Partial.beyond, UInt8.reduceToNat]
      omega
  case isFalse longer =>
    split
    case isTrue three =>
      have byte : (UInt8.ofNat (v / 4096 % 0x10 + 0xE0)).toNat = v / 4096 % 0x10 + 0xE0 :=
        UInt8.toNat_ofNat_of_lt' (by simp only [UInt8.size]; omega)
      refine ⟨UInt8.ofNat (v / 4096 % 0x10 + 0xE0), ⟨(v / 4096 % 0x10 + 0xE0) % 16, 2,
        if v / 4096 % 0x10 + 0xE0 = 0xE0 then 0xA0 else 0x80,
        if v / 4096 % 0x10 + 0xE0 = 0xED then 0x9F else 0xBF⟩, ?_, ?_, by simp [tailBytes]⟩
      · rw [lead, byte, if_neg (by omega), if_neg (by omega), if_neg (by omega), if_pos (by omega)]
      · simp only [Partial.Meets, Partial.least, Partial.beyond]
        split_ifs <;> simp only [UInt8.reduceToNat] <;> omega
    case isFalse longest =>
      have byte : (UInt8.ofNat (v / 262144 % 0x08 + 0xF0)).toNat = v / 262144 % 0x08 + 0xF0 :=
        UInt8.toNat_ofNat_of_lt' (by simp only [UInt8.size]; omega)
      refine ⟨UInt8.ofNat (v / 262144 % 0x08 + 0xF0), ⟨(v / 262144 % 0x08 + 0xF0) % 8, 3,
        if v / 262144 % 0x08 + 0xF0 = 0xF0 then 0x90 else 0x80,
        if v / 262144 % 0x08 + 0xF0 = 0xF4 then 0x8F else 0xBF⟩, ?_, ?_, by simp [tailBytes]⟩
      · rw [lead, byte, if_neg (by omega), if_neg (by omega), if_neg (by omega), if_neg (by omega),
          if_pos (by omega)]
      · simp only [Partial.Meets, Partial.least, Partial.beyond]
        split_ifs <;> simp only [UInt8.reduceToNat] <;> omega

theorem pieces_utf8EncodeChar (c : Char) (rest : List UInt8) :
    pieces (String.utf8EncodeChar c ++ rest) = .char c :: pieces rest := by
  by_cases ascii : c.toNat < 0x80
  · rw [utf8EncodeChar_ascii c ascii, List.singleton_append, pieces, piecesFrom_cons, feed,
      lead_ascii c ascii]
    rfl
  · obtain ⟨b, p, begun, meets, bytes⟩ := lead_wide c (Nat.le_of_not_lt ascii)
    have sound := sound_lead b p (by rw [begun])
    obtain ⟨k, owed⟩ : ∃ k, p.owed = k + 1 := ⟨p.owed - 1, by have owed := sound.owed; omega⟩
    rw [bytes, owed, List.cons_append, pieces, piecesFrom_cons, feed, begun, List.nil_append]
    exact piecesFrom_tailBytes p c rest k sound owed meets

theorem pieces_encode (text : List Char) (rest : List UInt8) :
    pieces (encode text ++ rest) = text.map Piece.char ++ pieces rest := by
  induction text with
  | nil => rfl
  | cons c text ih =>
      rw [encode, List.flatMap_cons, List.append_assoc, pieces_utf8EncodeChar, ← encode, ih]
      rfl

theorem decodeLossy_encode (text : List Char) : decodeLossy (encode text) = text := by
  have whole := pieces_encode text []
  rw [List.append_nil] at whole
  rw [decodeLossy, whole, List.map_append, List.map_map]
  have none : (pieces []).map Piece.display = [] := rfl
  rw [none, List.append_nil]
  exact List.map_id text

/-- Bytes that some character begins with. -/
def Begins (bytes : List UInt8) : Prop :=
  ∃ c, bytes <+: String.utf8EncodeChar c

/-- What has been begun by some bytes: just those characters begin with them whose numbers can still be
met. -/
structure Reached (p : Partial) (seen : List UInt8) : Prop where
  sound : p.Sound
  spelled : ∀ c : Char, p.Meets c.toNat →
    String.utf8EncodeChar c = seen ++ tailBytes p.owed c.toNat
  only : ∀ c : Char, seen <+: String.utf8EncodeChar c → p.Meets c.toNat

theorem Reached.exists_owed (p : Partial) (seen : List UInt8) (reached : Reached p seen) :
    ∃ k, p.owed = k + 1 := by
  have owed := reached.sound.owed
  exact ⟨p.owed - 1, by omega⟩

theorem Reached.takes_iff (p : Partial) (seen : List UInt8) (b : UInt8) (reached : Reached p seen) :
    p.Takes b ↔ Begins (seen ++ [b]) := by
  obtain ⟨k, owed⟩ := reached.exists_owed
  have sound := reached.sound
  constructor
  · intro takes
    -- The least number that goes on with the byte.
    have power : 0 < 64 ^ k := Nat.pow_pos (by decide)
    have digit : (p.bits * 64 + (b.toNat - 0x80)) * 64 ^ k / 64 ^ k =
        p.bits * 64 + (b.toNat - 0x80) := Nat.mul_div_cancel _ power
    have meets : p.Meets ((p.bits * 64 + (b.toNat - 0x80)) * 64 ^ k) := by
      rw [Partial.Meets, Partial.least, Partial.beyond, owed, Nat.add_sub_cancel]
      have low := takes.1
      have high := takes.2
      exact ⟨Nat.mul_le_mul_right _ (by omega), Nat.mul_lt_mul_of_pos_right (by omega) power⟩
    generalize (p.bits * 64 + (b.toNat - 0x80)) * 64 ^ k = n at digit meets
    have proper : n.isValidChar := by
      obtain ⟨above, below⟩ := meets
      rcases sound.valid with low | ⟨high, top⟩
      · exact .inl (by omega)
      · exact .inr ⟨by omega, by omega⟩
    have number : (Char.ofNat n).toNat = n := by rw [Char.toNat_ofNat, if_pos proper]
    have bytes := reached.spelled (Char.ofNat n) (by rwa [number])
    have byte : UInt8.ofNat (n / 64 ^ k % 64 + 0x80) = b := by
      rw [← UInt8.toNat_inj, toNat_tailByte, digit]
      have low := sound.low
      have high := sound.high
      have first := takes.1
      have last := takes.2
      omega
    refine ⟨Char.ofNat n, tailBytes k n, ?_⟩
    rw [bytes, number, owed, tailBytes, byte, List.append_assoc]
    rfl
  · rintro ⟨c, more, bytes⟩
    have meets := reached.only c ⟨[b] ++ more, by rw [← List.append_assoc, bytes]⟩
    have spelled := reached.spelled c meets
    rw [← bytes, owed, tailBytes, List.append_assoc, List.append_cancel_left_eq,
      List.singleton_append, List.cons.injEq] at spelled
    rw [spelled.1]
    exact (digit_of_meets p c.toNat k sound owed meets).1

theorem Reached.next (p : Partial) (seen : List UInt8) (b : UInt8) (reached : Reached p seen)
    (takes : p.Takes b) (more : 1 < p.owed) : Reached (p.next b) (seen ++ [b]) := by
  obtain ⟨k, owed⟩ : ∃ k, p.owed = k + 2 := ⟨p.owed - 2, by omega⟩
  have sound := reached.sound
  have low := sound.low
  have high := sound.high
  have narrows := narrows_next p b ⟨low, takes.1⟩ ⟨takes.2, high⟩ more
  have within (c : Char) (meets : (p.next b).Meets c.toNat) : p.Meets c.toNat :=
    ⟨Nat.le_trans narrows.1 meets.1, Nat.lt_of_lt_of_le meets.2 narrows.2⟩
  have later : (p.next b).owed = k + 1 := by rw [Partial.next, owed]; rfl
  have following := sound_next p b sound takes.1 takes.2 more
  constructor
  case sound => exact following
  case spelled =>
    intro c meets
    have bytes := reached.spelled c (within c meets)
    obtain ⟨-, digits⟩ := digit_of_meets p c.toNat (k + 1) sound owed (within c meets)
    obtain ⟨-, digits'⟩ := digit_of_meets (p.next b) c.toNat k following later meets
    have byte : UInt8.ofNat (c.toNat / 64 ^ (k + 1) % 64 + 0x80) = b := by
      have split : c.toNat / 64 ^ (k + 1) = c.toNat / 64 ^ k / 64 := by
        rw [Nat.pow_succ, Nat.div_div_eq_div_mul]
      have bits : (p.next b).bits = p.bits * 64 + b.toNat % 64 := rfl
      have first := takes.1
      have last := takes.2
      rw [← UInt8.toNat_inj, toNat_tailByte]
      omega
    rw [bytes, owed, later, tailBytes, byte, List.append_assoc]
    rfl
  case only =>
    rintro c ⟨rest, bytes⟩
    have meets := reached.only c ⟨[b] ++ rest, by rw [← List.append_assoc, bytes]⟩
    have spelled := reached.spelled c meets
    rw [← bytes, owed, tailBytes, List.append_assoc, List.append_cancel_left_eq,
      List.singleton_append, List.cons.injEq] at spelled
    rw [spelled.1]
    exact meets_next p c.toNat k sound owed meets

theorem spelled_lead (b : UInt8) (p : Partial) (c : Char) (begun : (lead b).2 = some p)
    (meets : p.Meets c.toNat) :
    String.utf8EncodeChar c = b :: tailBytes p.owed c.toNat := by
  have wide : 0x80 ≤ c.toNat := Nat.le_trans (sound_lead b p begun).wide meets.1
  have large : ¬c.val.toNat ≤ 0x7F := Nat.not_le_of_lt wide
  have same : c.val.toNat = c.toNat := rfl
  have byte (n : Nat) (small : n < 0x100) (equal : n = b.toNat) : UInt8.ofNat n = b := by
    rw [← UInt8.toNat_inj, UInt8.toNat_ofNat_of_lt' small, equal]
  simp only [String.utf8EncodeChar, if_neg large]
  rw [same]
  generalize c.toNat = v at wide meets
  rw [lead] at begun
  by_cases tail : b.toNat < 0xC2
  · by_cases ascii : b.toNat < 0x80 <;> simp [ascii, tail] at begun
  · rw [if_neg (by omega), if_neg tail] at begun
    split at begun
    case isTrue two =>
      cases begun
      simp only [Partial.Meets, Partial.least, Partial.beyond, UInt8.reduceToNat] at meets
      rw [if_pos (by omega), byte _ (by omega) (by omega)]
      simp [tailBytes]
    case isFalse longer =>
      split at begun
      case isTrue three =>
        cases begun
        simp only [Partial.Meets, Partial.least, Partial.beyond] at meets
        have bounds : b.toNat % 16 * 4096 ≤ v ∧ v < (b.toNat % 16 + 1) * 4096 ∧ 0x800 ≤ v := by
          split_ifs at meets <;> simp only [UInt8.reduceToNat] at meets <;> omega
        rw [if_neg (by omega), if_pos (by omega), byte _ (by omega) (by omega)]
        simp [tailBytes]
      case isFalse longest =>
        split at begun
        case isTrue four =>
          cases begun
          simp only [Partial.Meets, Partial.least, Partial.beyond] at meets
          have bounds : b.toNat % 8 * 262144 ≤ v ∧ v < (b.toNat % 8 + 1) * 262144 ∧
              0x10000 ≤ v := by
            refine ⟨?_, ?_, ?_⟩ <;> split_ifs at meets <;>
              simp only [UInt8.reduceToNat] at meets <;> omega
          rw [if_neg (by omega), if_neg (by omega), byte _ (by omega) (by omega)]
          simp [tailBytes]
        case isFalse => cases begun

theorem reached_lead (b : UInt8) (p : Partial) (begun : (lead b).2 = some p) : Reached p [b] := by
  constructor
  case sound => exact sound_lead b p begun
  case spelled => exact fun c meets => spelled_lead b p c begun meets
  case only =>
    rintro c ⟨more, bytes⟩
    by_cases ascii : c.toNat < 0x80
    · rw [utf8EncodeChar_ascii c ascii, List.singleton_append, List.cons.injEq] at bytes
      rw [bytes.1, lead_ascii c ascii] at begun
      cases begun
    · obtain ⟨b', p', begun', meets, bytes'⟩ := lead_wide c (Nat.le_of_not_lt ascii)
      rw [bytes', List.singleton_append, List.cons.injEq] at bytes
      rw [bytes.1, begun', Option.some.injEq] at begun
      rw [← begun]
      exact meets

theorem reached_of_opens (seen : List UInt8) (some : seen ≠ [])
    (opens : ∃ c more, more ≠ [] ∧ String.utf8EncodeChar c = seen ++ more) :
    ∃ p, Reached p seen ∧ ∀ rest, pieces (seen ++ rest) = piecesFrom (.some p) rest := by
  induction seen using List.reverseRecOn with
  | nil => exact absurd rfl some
  | append_singleton seen b ih =>
      obtain ⟨c, more, open_, bytes⟩ := opens
      by_cases first : seen = []
      · subst first
        rw [List.nil_append, List.singleton_append] at bytes
        have wide : 0x80 ≤ c.toNat := by
          by_contra ascii
          rw [utf8EncodeChar_ascii c (Nat.lt_of_not_le ascii), List.cons.injEq] at bytes
          exact open_ bytes.2.symm
        obtain ⟨b', p, begun, -, bytes'⟩ := lead_wide c wide
        rw [bytes', List.cons.injEq] at bytes
        rw [bytes.1] at begun
        refine ⟨p, reached_lead b p (by rw [begun]), fun rest => ?_⟩
        rw [List.nil_append, List.singleton_append, pieces, piecesFrom_cons, feed, begun]
        rfl
      · rw [List.append_assoc] at bytes
        obtain ⟨p, reached, run⟩ := ih first ⟨c, [b] ++ more, List.cons_ne_nil _ _, bytes⟩
        have takes : p.Takes b :=
          (reached.takes_iff p seen b).mpr ⟨c, more, by rw [bytes, List.append_assoc]⟩
        have owed : 1 < p.owed := by
          -- The character is longer than what has been read, by more than the byte.
          have meets := reached.only c ⟨[b] ++ more, bytes.symm⟩
          have length := congrArg List.length ((reached.spelled c meets).symm.trans bytes)
          have long := List.length_pos_of_ne_nil open_
          simp only [List.length_append, length_tailBytes, List.length_singleton] at length
          omega
        refine ⟨p.next b, reached.next p seen b takes owed, fun rest => ?_⟩
        rw [List.append_assoc, run, List.singleton_append, piecesFrom_cons, feed_takes p b takes,
          if_neg (Nat.not_le.mpr owed)]
        rfl

/-- Bytes that make one invalid piece where `rest` follows: they are the longest beginning of a
character, or a byte that no character begins with, and no character stands there. -/
structure Broken (bytes rest : List UInt8) : Prop where
  nonempty : bytes ≠ []
  begins : Begins bytes ∨ bytes.length = 1
  incomplete : ∀ c, ¬String.utf8EncodeChar c <+: bytes ++ rest
  longest : ∀ b, rest.head? = some b → ¬Begins (bytes ++ [b])

inductive Parsed : List UInt8 → List Piece → Prop where
  | nil : Parsed [] []
  | char (c : Char) (rest : List UInt8) (ps : List Piece) (later : Parsed rest ps) :
      Parsed (String.utf8EncodeChar c ++ rest) (.char c :: ps)
  | invalid (bytes rest : List UInt8) (ps : List Piece) (broken : Broken bytes rest)
      (later : Parsed rest ps) : Parsed (bytes ++ rest) (.invalid :: ps)

theorem lead_of_not_begins (b : UInt8) (none : ¬Begins [b]) : lead b = ([.invalid], .none) := by
  have large : ¬b.toNat < 0x80 := by
    intro ascii
    have number := toNat_ofNat_ascii b ascii
    have bytes := utf8EncodeChar_ascii (Char.ofNat b.toNat) (by rwa [number])
    rw [number, UInt8.ofNat_toNat] at bytes
    exact none ⟨Char.ofNat b.toNat, [], by rw [bytes]; rfl⟩
  have apart : (lead b).2 = .none := by
    cases begun : (lead b).2 with
    | none => rfl
    | some p =>
        have reached := reached_lead b p begun
        have takes : p.Takes p.low := ⟨Nat.le_refl _, reached.sound.order⟩
        obtain ⟨c, more, bytes⟩ := (reached.takes_iff p [b] p.low).mp takes
        exact absurd ⟨c, [p.low] ++ more, by rw [← bytes, List.append_assoc]⟩ none
  rw [lead, if_neg large] at apart ⊢
  grind

theorem pieces_broken (bytes rest : List UInt8) (broken : Broken bytes rest) :
    pieces (bytes ++ rest) = .invalid :: pieces rest := by
  by_cases begins : Begins bytes
  · obtain ⟨c, more, whole⟩ := begins
    have open_ : more ≠ [] := by
      rintro rfl
      rw [List.append_nil] at whole
      exact broken.incomplete c ⟨rest, by rw [whole]⟩
    obtain ⟨p, reached, run⟩ := reached_of_opens bytes broken.nonempty ⟨c, more, open_, whole.symm⟩
    rw [run]
    cases rest with
    | nil => rfl
    | cons b rest =>
        have refuses : ¬p.Takes b := fun takes =>
          broken.longest b rfl ((reached.takes_iff p bytes b).mp takes)
        rw [piecesFrom_cons, feed_refuses p b refuses, pieces, piecesFrom_cons]
        rfl
  · have single := broken.begins.resolve_left begins
    obtain ⟨b, rfl⟩ := List.length_eq_one_iff.mp single
    rw [List.singleton_append, pieces, piecesFrom_cons, feed, lead_of_not_begins b begins]
    rfl

theorem pieces_of_parsed (bytes : List UInt8) (ps : List Piece) (parsed : Parsed bytes ps) :
    ps = pieces bytes := by
  induction parsed with
  | nil => rfl
  | char c rest ps later ih => rw [pieces_utf8EncodeChar, ih]
  | invalid bytes rest ps broken later ih => rw [pieces_broken bytes rest broken, ih]

theorem exists_longest (front rest : List UInt8) (begins : Begins front) :
    ∃ middle after, rest = middle ++ after ∧ Begins (front ++ middle) ∧
      ∀ b, after.head? = some b → ¬Begins (front ++ middle ++ [b]) := by
  induction rest generalizing front with
  | nil => exact ⟨[], [], rfl, by rwa [List.append_nil], nofun⟩
  | cons x rest ih =>
      by_cases more : Begins (front ++ [x])
      · obtain ⟨middle, after, rfl, longer, last⟩ := ih (front ++ [x]) more
        have joined : front ++ [x] ++ middle = front ++ x :: middle := by simp
        rw [joined] at longer last
        exact ⟨x :: middle, after, rfl, longer, last⟩
      · refine ⟨[], x :: rest, rfl, by rwa [List.append_nil], ?_⟩
        rintro b same
        cases same
        rwa [List.append_nil]

theorem exists_broken (b : UInt8) (bytes : List UInt8)
    (incomplete : ∀ c, ¬String.utf8EncodeChar c <+: b :: bytes) :
    ∃ middle rest, bytes = middle ++ rest ∧ Broken (b :: middle) rest := by
  by_cases begins : Begins [b]
  · obtain ⟨middle, rest, rfl, longer, last⟩ := exists_longest [b] bytes begins
    refine ⟨middle, rest, rfl, List.cons_ne_nil _ _, .inl longer, ?_, last⟩
    rwa [List.cons_append]
  · refine ⟨[], bytes, rfl, List.cons_ne_nil _ _, .inr rfl, incomplete, ?_⟩
    rintro x - ⟨c, more, whole⟩
    exact begins ⟨c, [x] ++ more, by rw [← whole, List.append_assoc]⟩

/-- Bytes can be taken apart, and in one way only: into the pieces that they are decoded to. -/
theorem parsed_iff (bytes : List UInt8) (ps : List Piece) : Parsed bytes ps ↔ ps = pieces bytes := by
  constructor
  · exact pieces_of_parsed bytes ps
  · rintro rfl
    -- The rest of the bytes is shorter, whichever piece comes first.
    induction size : bytes.length using Nat.strong_induction_on generalizing bytes with
    | _ size ih =>
        cases bytes with
        | nil => exact .nil
        | cons b bytes =>
            by_cases complete : ∃ c, String.utf8EncodeChar c <+: b :: bytes
            · obtain ⟨c, rest, whole⟩ := complete
              have some := List.length_pos_of_ne_nil (String.utf8EncodeChar_ne_nil (c := c))
              have length := congrArg List.length whole
              rw [List.length_append] at length
              rw [← whole, pieces_utf8EncodeChar]
              exact .char c rest _ (ih rest.length (by omega) rest rfl)
            · push Not at complete
              obtain ⟨middle, rest, rfl, broken⟩ := exists_broken b bytes complete
              rw [← List.cons_append, pieces_broken _ rest broken]
              refine .invalid (b :: middle) rest _ broken (ih rest.length ?_ rest rfl)
              rw [List.length_cons, List.length_append] at size
              omega

end ProxyCheck.Utf8
