import ProxyCheck.Proofs.Text.Visible
import ProxyCheck.Proofs.Url.Ipv4
import ProxyCheck.Proofs.Url.Ipv6
import ProxyCheck.Proofs.Url.Percent

/-! The text of a host is read as that host, and nothing of what follows it is. -/
namespace ProxyCheck

theorem decode_ascii (text : List Char) (plain : ∀ c ∈ text, c.toNat < 0x80 ∧ c ≠ '%') :
    Percent.decode text = text.map fun c => UInt8.ofNat c.toNat := by
  induction text with
  | nil => rfl
  | cons c rest ih =>
      obtain ⟨ascii, sign⟩ := plain c List.mem_cons_self
      have first : Percent.decode (c :: rest) = String.utf8EncodeChar c ++ Percent.decode rest := by
        rw [Percent.decode]
        intro a b more same
        exact absurd same sign
      rw [first, utf8EncodeChar_ascii c ascii, ih fun d member => plain d (List.mem_cons_of_mem _ member)]
      rfl

/-- A character that ends neither an authority nor the credentials in front of a host. -/
def isHostChar (c : Char) : Bool :=
  isVisible c && c != '@' && !Url.endsAuthority true c

theorem of_isHostChar (c : Char) (inside : isHostChar c) :
    isVisible c ∧ c ≠ '@' ∧ Url.endsAuthority true c = false := by
  simpa [isHostChar, and_assoc] using inside

theorem Domain.of_isNameChar (c : Char) (named : isNameChar c) :
    isHostChar c ∧ c ≠ '%' ∧ c ≠ ':' ∧ c ≠ '[' ∧ c ≠ ']' := by
  have ascii : c.toNat < 0x80 := by
    simp only [isNameChar, isAscii, Bool.and_eq_true, decide_eq_true_eq] at named
    exact named.1
  exact of_ascii
    (fun c => isNameChar c → isHostChar c ∧ c ≠ '%' ∧ c ≠ ':' ∧ c ≠ '[' ∧ c ≠ ']')
    (by decide) c ascii named

namespace Host

inductive Legal : Bool → Host → Prop where
  | domain (name : List Char) (nonempty : name ≠ []) (letters : ∀ c ∈ name, Domain.isNameChar c)
      (unlike : Ipv4.looksNumeric name = false) : Legal true (.domain (String.ofList name))
  | ipv4 (a : Ipv4) : Legal true (.ipv4 a)
  | ipv6 (special : Bool) (a : Ipv6) : Legal special (.ipv6 a)
  | opaqueName (name : List Char) (allowed : ∀ c ∈ name, isForbidden c = false) :
      Legal false (.opaqueName (String.ofList (Percent.encode Percent.control name)))

theorem legal_ofBracketed (special : Bool) (cs : List Char) (h : Host)
    (read : ofBracketed cs = .ok h) : Legal special h := by
  rw [ofBracketed] at read
  split at read
  · split at read
    · cases read
      exact .ipv6 special _
    · cases read
  · cases read

theorem legal_ofName (name : List Char) (h : Host) (letters : ∀ c ∈ name, Domain.isNameChar c)
    (read : ofName name = .ok h) : Legal true h := by
  rw [ofName] at read
  split at read
  · cases read
  · rename_i nonempty
    split at read
    · split at read
      · cases read
        exact .ipv4 _
      · cases read
    · rename_i unlike
      cases read
      exact .domain name (by simpa using nonempty) letters (by simpa using unlike)

theorem legal_of_readHost (special : Bool) (cs : List Char) (h : Host)
    (read : Url.readHost special cs = .ok h) : Legal special h := by
  rw [Url.readHost] at read
  cases special with
  | true =>
      simp only [if_true] at read
      split at read
      · cases read
      · rw [ofSpecial.eq_def] at read
        split at read
        · exact legal_ofBracketed true _ h read
        · split at read
          · rename_i name converted
            rcases Option.bind_eq_some_iff.mp converted with ⟨text, -, converted⟩
            exact legal_ofName name h (Domain.isNameChar_of_toAscii converted) read
          · cases read
  | false =>
      simp only [Bool.false_eq_true, if_false] at read
      rw [ofOpaque.eq_def] at read
      split at read
      · exact legal_ofBracketed false _ h read
      · split at read
        · cases read
        · rename_i allowed
          cases read
          simp only [Bool.not_eq_true, List.any_eq_false] at allowed
          exact .opaqueName cs fun c member => allowed c member

theorem of_isForbidden (c : Char) (kept : Percent.keeps Percent.control c)
    (allowed : isForbidden c = false) : isHostChar c ∧ c ≠ ':' ∧ c ≠ '[' ∧ c ≠ ']' :=
  of_ascii
    (fun c => Percent.keeps Percent.control c → isForbidden c = false →
      isHostChar c ∧ c ≠ ':' ∧ c ≠ '[' ∧ c ≠ ']')
    (by decide) c (Percent.ascii_of_keeps _ c kept) kept allowed

theorem of_isHex (c : Char) (hex : isHex c) : isHostChar c ∧ c ≠ '[' ∧ c ≠ ']' := by
  have ascii : c.toNat < 0x80 := by
    rw [isHex, hexValue?] at hex
    grind
  exact of_ascii (fun c => isHex c → isHostChar c ∧ c ≠ '[' ∧ c ≠ ']') (by decide) c ascii hex

theorem ascii_of_isDigit (c : Char) (digit : c.isDigit) : c.toNat < 0x80 := by
  simp only [Char.isDigit, Bool.and_eq_true, decide_eq_true_eq] at digit
  have below : c.toNat ≤ 57 := digit.2
  omega

theorem of_isDigit (c : Char) (digit : c.isDigit) :
    isHostChar c ∧ c ≠ ':' ∧ c ≠ '[' ∧ c ≠ ']' :=
  of_ascii (fun c => c.isDigit → isHostChar c ∧ c ≠ ':' ∧ c ≠ '[' ∧ c ≠ ']') (by decide) c
    (ascii_of_isDigit c digit) digit

theorem isForbidden_sign : ∀ c ∈ Percent.signs, isForbidden c = false :=
  of_mem _ Percent.signs (by decide)

theorem mem_opaque (name : List Char) (allowed : ∀ c ∈ name, isForbidden c = false) :
    ∀ c ∈ Percent.encode Percent.control name,
      Percent.keeps Percent.control c ∧ isForbidden c = false := by
  intro c member
  rcases Percent.mem_encode _ name c member with ⟨source, kept⟩ | sign
  · exact ⟨kept, allowed c source⟩
  · exact ⟨(Percent.signs_kept c sign).1, isForbidden_sign c sign⟩

theorem splitHost_outside (name rest : List Char)
    (plain : ∀ c ∈ name, c ≠ ':' ∧ c ≠ '[' ∧ c ≠ ']') (ends : rest.head?.all (· == ':')) :
    Url.splitHost false (name ++ rest) = (name, rest) := by
  induction name with
  | nil =>
      cases rest with
      | nil => rfl
      | cons c rest =>
          have colon : c = ':' := by simpa using ends
          rw [List.nil_append, Url.splitHost, if_pos ⟨colon, rfl⟩]
  | cons c name ih =>
      obtain ⟨colon, opening, closing⟩ := plain c List.mem_cons_self
      rw [List.cons_append, Url.splitHost, if_neg fun both => colon both.1]
      simp only
      rw [if_neg opening, if_neg closing, ih fun d member => plain d (List.mem_cons_of_mem _ member)]

theorem splitHost_inside (name rest : List Char) (plain : ∀ c ∈ name, c ≠ '[' ∧ c ≠ ']')
    (ends : rest.head?.all (· == ':')) :
    Url.splitHost true (name ++ ']' :: rest) = (name ++ [']'], rest) := by
  induction name with
  | nil =>
      have after := splitHost_outside [] rest nofun ends
      rw [List.nil_append] at after
      rw [List.nil_append, Url.splitHost, if_neg (by decide)]
      simp only
      rw [if_neg (by decide), if_true, after]
      rfl
  | cons c name ih =>
      obtain ⟨opening, closing⟩ := plain c List.mem_cons_self
      rw [List.cons_append, Url.splitHost, if_neg (by simp)]
      simp only
      rw [if_neg opening, if_neg closing, ih fun d member => plain d (List.mem_cons_of_mem _ member)]
      rfl

theorem toList_ipv6 (a : Ipv6) : (Host.ipv6 a).text.toList = '[' :: (a.chars ++ [']']) := by
  simp [text, Ipv6.text]

theorem mem_text (special : Bool) (h : Host) (legal : Legal special h) :
    ∀ c ∈ h.text.toList, isHostChar c := by
  intro c member
  cases legal with
  | domain name nonempty letters unlike =>
      rw [text, String.toList_ofList] at member
      exact (Domain.of_isNameChar c (letters c member)).1
  | ipv4 a =>
      rcases a.mem_text c member with digit | rfl
      · exact (of_isDigit c digit).1
      · decide
  | ipv6 _ a =>
      rw [toList_ipv6, List.mem_cons, List.mem_append, List.mem_singleton] at member
      rcases member with rfl | inside | rfl
      · decide
      · rcases a.mem_chars c inside with hex | rfl
        · exact (of_isHex c hex).1
        · decide
      · decide
  | opaqueName name allowed =>
      rw [text, String.toList_ofList] at member
      obtain ⟨kept, allowed⟩ := mem_opaque name allowed c member
      exact (of_isForbidden c kept allowed).1

theorem at_not_mem (special : Bool) (h : Host) (legal : h.Legal special) :
    '@' ∉ h.text.toList := by
  intro member
  exact absurd (h.mem_text special legal '@' member) (by decide)

theorem splitHost_text (special : Bool) (h : Host) (legal : Legal special h) (rest : List Char)
    (ends : rest.head?.all (· == ':')) :
    Url.splitHost false (h.text.toList ++ rest) = (h.text.toList, rest) := by
  cases legal with
  | domain name nonempty letters unlike =>
      rw [text, String.toList_ofList]
      refine splitHost_outside name rest (fun c member => ?_) ends
      exact (Domain.of_isNameChar c (letters c member)).2.2
  | ipv4 a =>
      refine splitHost_outside _ rest (fun c member => ?_) ends
      rcases a.mem_text c member with digit | rfl
      · exact (of_isDigit c digit).2
      · decide
  | ipv6 _ a =>
      have inside := splitHost_inside a.chars rest (fun c member => ?_) ends
      · rw [toList_ipv6, List.cons_append, List.append_assoc, Url.splitHost, if_neg (by decide)]
        simp only
        rw [if_true]
        have joined : a.chars ++ ([']'] ++ rest) = a.chars ++ ']' :: rest := rfl
        rw [joined, inside]
      · rcases a.mem_chars c member with hex | rfl
        · exact (of_isHex c hex).2
        · decide
  | opaqueName name allowed =>
      rw [text, String.toList_ofList]
      refine splitHost_outside _ rest (fun c member => ?_) ends
      obtain ⟨kept, allowed⟩ := mem_opaque name allowed c member
      exact (of_isForbidden c kept allowed).2

/-- A domain name is stable if it is its own ASCII form. Other hosts are stable as they are. -/
def Stable : Host → Prop
  | .domain name => Domain.toAscii name.toList = some name.toList
  | _ => True

theorem map_toLower (text : List Char) (lower : ∀ c ∈ text, c.toLower = c) :
    text.map Char.toLower = text := by
  calc text.map Char.toLower = text.map id := List.map_congr_left lower
    _ = text := List.map_id text

theorem toAscii_of_lower (text : List Char) (plain : Domain.isPlain text)
    (lower : ∀ c ∈ text, c.toLower = c) (letters : ∀ c ∈ text, Domain.isNameChar c) :
    Domain.toAscii text = some text := by
  rw [Domain.toAscii, if_pos plain, map_toLower text lower, Option.filter_some, if_pos (List.all_eq_true.mpr letters)]

theorem name_of_isDigit (c : Char) (digit : c.isDigit) :
    Domain.isAscii c ∧ c.toLower = c ∧ c ≠ 'x' ∧ Domain.isNameChar c :=
  of_ascii (fun c => c.isDigit → Domain.isAscii c ∧ c.toLower = c ∧ c ≠ 'x' ∧ Domain.isNameChar c)
    (by decide) c (ascii_of_isDigit c digit) digit

theorem isPlain_of_unmarked (text : List Char) (ascii : ∀ c ∈ text, Domain.isAscii c)
    (unmarked : ¬ Domain.encodedMark <:+: text.map Char.toLower) : Domain.isPlain text := by
  rw [Domain.isPlain, Bool.and_eq_true, List.all_eq_true, List.all_eq_true]
  refine ⟨ascii, ?_⟩
  intro label member
  have inside := infix_intercalate ['.'] _ label member
  rw [List.intercalate_splitOn] at inside
  rw [Bool.not_eq_true', Bool.eq_false_iff, ne_eq, List.isPrefixOf_iff_prefix]
  exact fun marked => unmarked (marked.isInfix.trans inside)

theorem isPlain_of_absent (text : List Char) (ascii : ∀ c ∈ text, Domain.isAscii c)
    (absent : 'x' ∉ text.map Char.toLower) : Domain.isPlain text := by
  apply isPlain_of_unmarked text ascii
  intro marked
  exact absent (marked.subset (by decide))

theorem toAscii_ipv4 (a : Ipv4) : Domain.toAscii a.text.toList = some a.text.toList := by
  have each : ∀ c ∈ a.text.toList, Domain.isAscii c ∧ c.toLower = c ∧ Domain.isNameChar c := by
    intro c member
    rcases a.mem_text c member with number | rfl
    · obtain ⟨ascii, lower, -, letter⟩ := name_of_isDigit c number
      exact ⟨ascii, lower, letter⟩
    · decide
  have lower : ∀ c ∈ a.text.toList, c.toLower = c := fun c member => (each c member).2.1
  have plain : Domain.isPlain a.text.toList := by
    apply isPlain_of_absent _ fun c member => (each c member).1
    rw [map_toLower _ lower]
    intro letter
    exact absurd (a.mem_text 'x' letter) (by decide)
  exact toAscii_of_lower _ plain lower fun c member => (each c member).2.2

theorem ofSpecial_ascii (name : List Char) (plain : ∀ c ∈ name, c.toNat < 0x80 ∧ c ≠ '%')
    (bare : name.head? ≠ some '[') :
    ofSpecial name = (Domain.toAscii name).elim (.error .invalidDomainName) ofName := by
  rw [ofSpecial.eq_def]
  split
  · exact absurd rfl bare
  · rw [decode_ascii name plain, decode?_ascii name fun c member => (plain c member).1,
      Option.bind_some]
    cases Domain.toAscii name with
    | none => rfl
    | some ascii => rfl

theorem ofSpecial_name (name : List Char) (letters : ∀ c ∈ name, Domain.isNameChar c) :
    ofSpecial name = (Domain.toAscii name).elim (.error .invalidDomainName) ofName := by
  apply ofSpecial_ascii
  · intro c member
    have letter := letters c member
    simp only [Domain.isNameChar, Domain.isAscii, Bool.and_eq_true, decide_eq_true_eq] at letter
    exact ⟨letter.1, (Domain.of_isNameChar c (letters c member)).2.1⟩
  · intro first
    exact (Domain.of_isNameChar '[' (letters '[' (List.mem_of_head? first))).2.2.2.1 rfl

theorem ipv4_of_digits (digits : List Char) (h : Host) (all : ∀ c ∈ digits, c.isDigit)
    (read : Url.readHost true digits = .ok h) : ∃ a, h = .ipv4 a := by
  have each (c : Char) (member : c ∈ digits) := name_of_isDigit c (all c member)
  have lower : ∀ c ∈ digits, c.toLower = c := fun c member => (each c member).2.1
  have letters : ∀ c ∈ digits, Domain.isNameChar c := fun c member => (each c member).2.2.2
  have plain : Domain.isPlain digits := by
    apply isPlain_of_absent digits fun c member => (each c member).1
    rw [map_toLower digits lower]
    exact fun letter => (each 'x' letter).2.2.1 rfl
  rw [Url.readHost, if_pos rfl] at read
  split at read
  · cases read
  · rename_i nonempty
    have some : digits ≠ [] := by simpa using nonempty
    rw [ofSpecial_name digits letters, toAscii_of_lower digits plain lower letters,
      Option.elim_some, ofName, if_neg nonempty,
      if_pos (Ipv4.looksNumeric_digits digits all some)] at read
    cases number : Ipv4.ofName? digits with
    | none => simp [number] at read
    | some a =>
        rw [number] at read
        exact ⟨a, (Except.ok.inj read).symm⟩

theorem ofBracketed_ipv6 (a : Ipv6) : ofBracketed (a.chars ++ [']']) = .ok (.ipv6 a) := by
  rw [ofBracketed, List.getLast?_concat, if_pos rfl, List.dropLast_concat, a.ofText?_chars]

/-- The text of a stable host is read as that host. -/
theorem readHost_text (special : Bool) (h : Host) (legal : Legal special h) (stable : h.Stable) :
    Url.readHost special h.text.toList = .ok h := by
  cases legal with
  | domain name nonempty letters unlike =>
      rw [Stable, String.toList_ofList] at stable
      rw [text, String.toList_ofList, Url.readHost, if_pos rfl, if_neg (by simpa using nonempty),
        ofSpecial_name name letters, stable, Option.elim_some, ofName]
      rw [if_neg (by simpa using nonempty), if_neg (by simp [unlike])]
  | ipv4 a =>
      have nonempty := a.text_ne_nil
      have letters := Domain.isNameChar_of_toAscii (toAscii_ipv4 a)
      rw [text, Url.readHost, if_pos rfl, if_neg (by simpa using nonempty),
        ofSpecial_name _ letters, toAscii_ipv4, Option.elim_some, ofName]
      rw [if_neg (by simpa using nonempty), if_pos a.looksNumeric_text, a.ofName?_text]
  | ipv6 _ a =>
      rw [toList_ipv6, Url.readHost]
      cases special with
      | true => exact ofBracketed_ipv6 a
      | false => exact ofBracketed_ipv6 a
  | opaqueName name allowed =>
      have kept := mem_opaque name allowed
      rw [text, String.toList_ofList, Url.readHost, if_neg (by decide), ofOpaque.eq_def]
      generalize encoded : Percent.encode Percent.control name = cs at kept
      split
      · have opening := (of_isForbidden '[' (kept '[' List.mem_cons_self).1
          (kept '[' List.mem_cons_self).2).2.2.1
        exact absurd rfl opening
      · rw [if_neg, Percent.encode_eq_self _ cs fun c member => (kept c member).1]
        rw [Bool.not_eq_true, List.any_eq_false]
        intro c member
        rw [(kept c member).2]
        exact Bool.false_ne_true

def Readable : Host → Prop
  | .domain name => ∃ read, ofSpecial name.toList = .ok read
  | _ => True

theorem readable_iff (special : Bool) (h : Host) (legal : Legal special h) :
    h.Readable ↔ ∃ read, Url.readHost special h.text.toList = .ok read := by
  have stable (stable : h.Stable) : ∃ read, Url.readHost special h.text.toList = .ok read :=
    ⟨h, h.readHost_text special legal stable⟩
  cases legal with
  | domain name nonempty letters unlike =>
      rw [Readable, text, String.toList_ofList, Url.readHost, if_pos rfl,
        if_neg (by simpa using nonempty)]
  | ipv4 a => exact ⟨fun _ => stable trivial, fun _ => trivial⟩
  | ipv6 _ a => exact ⟨fun _ => stable trivial, fun _ => trivial⟩
  | opaqueName name allowed => exact ⟨fun _ => stable trivial, fun _ => trivial⟩

end Host

end ProxyCheck
