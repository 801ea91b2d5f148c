import ProxyCheck.Proofs.Url.Scheme

/-! Plain ASCII has stable hosts: whether a host is its own ASCII form is a question of encoded and of
foreign names only. -/
namespace ProxyCheck

namespace Domain

/-- ASCII in which nothing is percent-encoded and no label is an encoded one. -/
structure Plain (text : List Char) : Prop where
  ascii : ∀ c ∈ text, c.toNat < 0x80 ∧ c ≠ '%'
  unmarked : ¬ encodedMark <:+: text.map Char.toLower

theorem Plain.of_infix (part text : List Char) (inside : part <:+: text) (plain : Plain text) :
    Plain part where
  ascii c member := plain.ascii c (inside.subset member)
  unmarked marked := plain.unmarked (marked.trans (inside.map _))

theorem Plain.isPlain (text : List Char) (plain : Plain text) : isPlain text := by
  refine Host.isPlain_of_unmarked text (fun c member => ?_) plain.unmarked
  simpa [isAscii] using (plain.ascii c member).1

theorem toLower_ascii (c : Char) (ascii : isAscii c) :
    isAscii c.toLower ∧ c.toLower.toLower = c.toLower :=
  of_ascii (fun c => isAscii c.toLower ∧ c.toLower.toLower = c.toLower) (by decide) c
    (by simpa [isAscii] using ascii)

theorem toAscii_of_plain (text name : List Char) (plain : isPlain text)
    (converted : toAscii text = some name) : toAscii name = some name := by
  have letters := isNameChar_of_toAscii converted
  rw [toAscii, if_pos plain] at converted
  rcases Option.filter_eq_some_iff.mp converted with ⟨lowered, -⟩
  cases lowered
  rw [Domain.isPlain, Bool.and_eq_true, List.all_eq_true] at plain
  have lower : ∀ c ∈ text.map Char.toLower, c.toLower = c := by
    intro c member
    rcases List.mem_map.mp member with ⟨d, source, rfl⟩
    exact (toLower_ascii d (plain.1 d source)).2
  refine Host.toAscii_of_lower _ ?_ lower letters
  rw [Domain.isPlain, Host.map_toLower _ lower, plain.2, Bool.and_true, List.all_eq_true]
  intro c member
  rcases List.mem_map.mp member with ⟨d, source, rfl⟩
  exact (toLower_ascii d (plain.1 d source)).1

end Domain

theorem Host.stable_of_plain (special : Bool) (cs : List Char) (h : Host)
    (read : Url.readHost special cs = .ok h) (plain : Domain.Plain cs) : h.Stable := by
  cases legal_of_readHost special cs h read with
  | domain name nonempty letters unlike =>
      rw [Url.readHost, if_pos rfl] at read
      split at read
      · cases read
      · have bare : cs.head? ≠ some '[' := by
          intro opening
          obtain ⟨rest, rfl⟩ := List.head?_eq_some_iff.mp opening
          rw [ofSpecial, ofBracketed] at read
          split at read
          · split at read <;> cases read
          · cases read
        rw [ofSpecial_ascii cs plain.ascii bare] at read
        cases converted : Domain.toAscii cs with
        | none =>
            rw [converted] at read
            cases read
        | some ascii =>
            have same : ascii = name := by
              rw [converted, Option.elim_some, ofName] at read
              split at read
              · cases read
              · split at read
                · split at read <;> cases read
                · exact String.ofList_injective (Host.domain.inj (Except.ok.inj read))
            rw [Stable, String.toList_ofList]
            exact Domain.toAscii_of_plain cs name (plain.isPlain cs) (same ▸ converted)
  | ipv4 a => trivial
  | ipv6 _ a => trivial
  | opaqueName name allowed => trivial

namespace Url

theorem splitHost_append (bracketed : Bool) (cs : List Char) :
    (splitHost bracketed cs).1 ++ (splitHost bracketed cs).2 = cs := by
  induction cs generalizing bracketed with
  | nil => rfl
  | cons c rest ih =>
      rw [splitHost]
      split
      · rfl
      · exact congrArg (c :: ·) (ih _)

theorem infix_writtenPlace (special : Bool) (cs : List Char) :
    (splitHost false (writtenPlace special cs)).1 <:+: cs := by
  have host : (splitHost false (writtenPlace special cs)).1 <+: writtenPlace special cs :=
    ⟨_, splitHost_append false _⟩
  have place : writtenPlace special cs <:+ authorityOf special cs := by
    rw [writtenPlace]
    cases split : splitLastAt (authorityOf special cs) with
    | none => exact List.suffix_rfl
    | some parts =>
        obtain ⟨whole, -⟩ := of_splitLastAt _ parts.1 parts.2 split
        exact ⟨parts.1 ++ ['@'], by rw [whole]; simp⟩
  have authority : authorityOf special cs <+: cs := List.takeWhile_prefix _
  exact (host.isInfix.trans place.isInfix).trans authority.isInfix

theorem stable_of_readAuthority (scheme : String) (special : Bool) (cs rest : List Char)
    (a : Authority) (read : readAuthority scheme special cs = .ok (a, rest))
    (plain : Domain.Plain cs) : a.host.Stable := by
  obtain ⟨-, host, -⟩ := place_of_readAuthority scheme special cs rest a read
  exact a.host.stable_of_plain special _ host (plain.of_infix _ cs (infix_writtenPlace special cs))

/-- A URL in plain ASCII has a stable host. -/
theorem stable_of_plain (text : List Char) (u : Url) (h : Host) (read : ofChars text = .ok u)
    (kind : SchemeKind.of u.scheme ≠ .file) (hosted : u.host = some h)
    (plain : Domain.Plain (clean text)) : h.Stable := by
  obtain ⟨rest, split, how⟩ := readAs_of_ofChars text u read
  obtain ⟨raw, whole, -⟩ := of_splitScheme _ rest u.scheme split
  have after : rest <:+: clean text := ⟨raw ++ [':'], [], by rw [whole]; simp⟩
  cases how with
  | file host tail whole =>
      rw [whole] at kind
      exact absurd rfl kind
  | web a tail special authority whole =>
      rw [whole] at hosted
      cases hosted
      have place := (List.dropWhile_suffix (isSlash true)).isInfix.trans after
      exact stable_of_readAuthority u.scheme true _ tail a authority (plain.of_infix _ _ place)
  | named place a tail other starts authority whole =>
      rw [whole] at hosted
      cases hosted
      have within : place <:+: rest := ⟨['/', '/'], [], by rw [starts]; simp⟩
      exact stable_of_readAuthority u.scheme false place tail a authority
        (plain.of_infix _ _ (within.trans after))
  | bare other whole =>
      rw [whole] at hosted
      cases hosted

end Url

end ProxyCheck
