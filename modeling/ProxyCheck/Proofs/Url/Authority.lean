import ProxyCheck.Proofs.Url.Host

/-! The text of an authority is read as its parts: user name, password, host and port. -/
namespace ProxyCheck.Url

theorem endsAuthority_le (special : Bool) (c : Char) (ends : endsAuthority special c) :
    endsAuthority true c := by
  simp only [endsAuthority, isSlash, Bool.or_eq_true, Bool.and_eq_true] at ends ⊢
  rcases ends with (slash | ⟨-, backslash⟩) | mark
  · exact .inl (.inl slash)
  · exact .inl (.inr ⟨trivial, backslash⟩)
  · exact .inr mark

structure Encoded (username : String) (password : Option String) : Prop where
  username : ∀ c ∈ username.toList, Percent.keeps Percent.userinfo c
  password : ∀ p, password = some p → p ≠ "" ∧ ∀ c ∈ p.toList, Percent.keeps Percent.userinfo c

theorem encodeUserinfo_eq_self (text : String)
    (kept : ∀ c ∈ text.toList, Percent.keeps Percent.userinfo c) :
    encodeUserinfo text.toList = text := by
  rw [encodeUserinfo, Percent.encode_eq_self _ _ kept, String.ofList_toList]

theorem encodeUserinfo_kept (cs : List Char) :
    ∀ c ∈ (encodeUserinfo cs).toList, Percent.keeps Percent.userinfo c := by
  rw [encodeUserinfo, String.toList_ofList]
  exact Percent.keeps_of_mem_encode _ (fun c sign => (Percent.signs_kept c sign).2.1) cs

theorem encodeUserinfo_ne_empty (cs : List Char) (nonempty : cs ≠ []) :
    encodeUserinfo cs ≠ "" := by
  intro empty
  have encoded := congrArg String.toList empty
  rw [encodeUserinfo, String.toList_ofList] at encoded
  exact Percent.encode_ne_nil _ cs nonempty encoded

theorem encoded_readUserinfo (cs : List Char) :
    Encoded (readUserinfo cs).1 (readUserinfo cs).2 := by
  rw [readUserinfo.eq_def]
  simp only
  split
  · refine ⟨encodeUserinfo_kept _, fun p same => ?_⟩
    cases same
    exact ⟨encodeUserinfo_ne_empty _ (List.cons_ne_nil _ _), encodeUserinfo_kept _⟩
  · exact ⟨encodeUserinfo_kept _, nofun⟩

theorem splitLastAt_none (cs : List Char) (absent : '@' ∉ cs) : splitLastAt cs = none := by
  induction cs with
  | nil => rfl
  | cons c rest ih =>
      rw [List.mem_cons, not_or] at absent
      rw [splitLastAt, ih absent.2]
      exact if_neg (Ne.symm absent.1)

theorem splitLastAt_append (before after : List Char) (absent : '@' ∉ after) :
    splitLastAt (before ++ '@' :: after) = some (before, after) := by
  induction before with
  | nil =>
      rw [List.nil_append, splitLastAt, splitLastAt_none after absent]
      exact if_pos rfl
  | cons c rest ih =>
      rw [List.cons_append, splitLastAt, ih]

theorem of_splitLastAt_none (cs : List Char) (split : splitLastAt cs = none) : '@' ∉ cs := by
  induction cs with
  | nil => exact List.not_mem_nil
  | cons c rest ih =>
      rw [splitLastAt] at split
      cases later : splitLastAt rest with
      | some parts => simp [later] at split
      | none =>
          have other : c ≠ '@' := by simpa [later] using split
          rw [List.mem_cons, not_or]
          exact ⟨other.symm, ih later⟩

theorem of_splitLastAt (cs before after : List Char)
    (split : splitLastAt cs = some (before, after)) : cs = before ++ '@' :: after ∧ '@' ∉ after := by
  induction cs generalizing before with
  | nil => cases split
  | cons c rest ih =>
      rw [splitLastAt] at split
      cases later : splitLastAt rest with
      | some parts =>
          rcases parts with ⟨front, back⟩
          simp only [later, Option.some.injEq, Prod.mk.injEq] at split
          obtain ⟨rfl, rfl⟩ := split
          obtain ⟨rfl, absent⟩ := ih front later
          exact ⟨rfl, absent⟩
      | none =>
          simp only [later, Option.ite_none_right_eq_some, Option.some.injEq, Prod.mk.injEq] at split
          obtain ⟨rfl, rfl, rfl⟩ := split
          exact ⟨rfl, of_splitLastAt_none rest later⟩

theorem span_stop {α : Type} (p : α → Bool) (front back : List α) (all : ∀ x ∈ front, p x)
    (stop : back.head?.all (!p ·)) :
    (front ++ back).takeWhile p = front ∧ (front ++ back).dropWhile p = back := by
  induction front with
  | nil =>
      cases back with
      | nil => exact ⟨rfl, rfl⟩
      | cons x rest =>
          have other : p x = false := by simpa using stop
          simp [other]
  | cons x front ih =>
      rcases ih fun y member => all y (List.mem_cons_of_mem _ member) with ⟨take, drop⟩
      rw [List.cons_append, List.takeWhile_cons_of_pos (all x List.mem_cons_self),
        List.dropWhile_cons_of_pos (all x List.mem_cons_self), take, drop]
      exact ⟨rfl, rfl⟩

theorem span_sign (sign : Char) (front back : List Char) (absent : sign ∉ front)
    (stops : back.head?.all (· == sign)) :
    (front ++ back).takeWhile (· ≠ sign) = front ∧ (front ++ back).dropWhile (· ≠ sign) = back := by
  apply span_stop (fun c => decide (c ≠ sign)) front back
  · intro c member
    exact decide_eq_true fun same => absent (same ▸ member)
  · cases back with
    | nil => rfl
    | cons c back => simpa using stops

theorem readUserinfo_nil : readUserinfo [] = ("", none) := rfl

theorem readUserinfo_username (username : String)
    (kept : ∀ c ∈ username.toList, Percent.keeps Percent.userinfo c) :
    readUserinfo username.toList = (username, none) := by
  have plain : ':' ∉ username.toList := fun member =>
    (Percent.of_keeps_userinfo ':' (kept ':' member)).2.1 rfl
  have split := span_sign ':' username.toList [] plain rfl
  rw [List.append_nil] at split
  rw [readUserinfo, split.1, split.2, encodeUserinfo_eq_self username kept]

theorem readUserinfo_append (user secret : List Char) (plain : ':' ∉ user) (nonempty : secret ≠ []) :
    readUserinfo (user ++ ':' :: secret) = (encodeUserinfo user, some (encodeUserinfo secret)) := by
  obtain ⟨take, drop⟩ := span_sign ':' user (':' :: secret) plain rfl
  obtain ⟨c, rest, rfl⟩ := List.exists_cons_of_ne_nil nonempty
  rw [readUserinfo, take, drop]

theorem readUserinfo_password (username password : String)
    (encoded : Encoded username (some password)) :
    readUserinfo (username.toList ++ ':' :: password.toList) = (username, some password) := by
  obtain ⟨nonempty, kept⟩ := encoded.password password rfl
  have plain : ':' ∉ username.toList := fun member =>
    (Percent.of_keeps_userinfo ':' (encoded.username ':' member)).2.1 rfl
  have some : password.toList ≠ [] := fun empty => nonempty (String.toList_inj.mp empty)
  rw [readUserinfo_append _ _ plain some, encodeUserinfo_eq_self username encoded.username,
    encodeUserinfo_eq_self password kept]

theorem read_credentials (username : String) (password : Option String) (place : List Char)
    (encoded : Encoded username password) (nonempty : place ≠ []) (absent : '@' ∉ place) :
    splitLastAt ((credentials username password).toList ++ place) ≠ some ([], []) ∧
      ∃ userinfo, (splitLastAt ((credentials username password).toList ++ place)).getD
          ([], (credentials username password).toList ++ place) = (userinfo, place) ∧
        readUserinfo userinfo = (username, password) := by
  cases password with
  | some password =>
      have text : (credentials username (some password)).toList ++ place =
          (username.toList ++ ':' :: password.toList) ++ '@' :: place := by
        simp [credentials]
      rw [text, splitLastAt_append _ place absent]
      exact ⟨by simp, _, rfl, readUserinfo_password username password encoded⟩
  | none =>
      by_cases empty : username = ""
      · have text : (credentials username none).toList ++ place = place := by
          simp [credentials, empty]
        rw [text, splitLastAt_none place absent, empty]
        exact ⟨nofun, [], rfl, readUserinfo_nil⟩
      · have text : (credentials username none).toList ++ place =
            username.toList ++ '@' :: place := by
          simp [credentials, empty]
        rw [text, splitLastAt_append _ place absent]
        refine ⟨?_, _, rfl, readUserinfo_username username encoded.username⟩
        simp [nonempty]

theorem mem_credentials (username : String) (password : Option String)
    (encoded : Encoded username password) :
    ∀ c ∈ (credentials username password).toList, isVisible c ∧ endsAuthority true c = false := by
  have kept (c : Char) (kept : Percent.keeps Percent.userinfo c) :
      isVisible c ∧ endsAuthority true c = false := by
    obtain ⟨visible, -, -, inside⟩ := Percent.of_keeps_userinfo c kept
    exact ⟨visible, inside⟩
  have mark (text : List Char)
      (all : text.all fun c => decide (isVisible c ∧ endsAuthority true c = false)) :=
    of_mem (fun c => isVisible c ∧ endsAuthority true c = false) text all
  intro c member
  cases password with
  | some password =>
      simp only [credentials, String.toList_append, List.mem_append] at member
      rcases member with ((user | colon) | secret) | at_
      · exact kept c (encoded.username c user)
      · exact mark ":".toList (by decide) c colon
      · exact kept c ((encoded.password password rfl).2 c secret)
      · exact mark "@".toList (by decide) c at_
  | none =>
      rw [credentials] at member
      split at member
      · exact absurd member List.not_mem_nil
      · rw [String.toList_append, List.mem_append] at member
        rcases member with user | at_
        · exact kept c (encoded.username c user)
        · exact mark "@".toList (by decide) c at_

theorem mem_portText (written : Option UInt16) :
    ∀ c ∈ (portText written).toList, isHostChar c := by
  intro c member
  cases written with
  | none => exact absurd member List.not_mem_nil
  | some port =>
      rw [portText, String.toList_append, List.mem_append] at member
      rcases member with colon | digit
      · exact of_mem (isHostChar ·) ":".toList (by decide) c colon
      · exact (Host.of_isDigit c (isDigit_of_mem_toString _ c digit)).1

theorem head?_portText (written : Option UInt16) :
    (portText written).toList.head?.all (· == ':') := by
  cases written with
  | none => rfl
  | some port =>
      rw [portText, String.toList_append]
      rfl

theorem digit_of_endsAuthority (c : Char) (ends : endsAuthority true c) : c.isDigit = false := by
  simp only [endsAuthority, isSlash, endsPath, Bool.or_eq_true, Bool.and_eq_true, beq_iff_eq] at ends
  rcases ends with (rfl | ⟨-, rfl⟩) | rfl | rfl <;> decide

theorem readOptionalPort_text (scheme : String) (written : Option UInt16) (tail : List Char)
    (ends : tail.head?.all (endsAuthority true)) :
    readOptionalPort scheme ((portText written).toList ++ tail) =
      .ok (if written = defaultPort? scheme then none else written, tail) := by
  cases written with
  | none =>
      rw [ite_self, portText, String.toList_empty, List.nil_append]
      rw [readOptionalPort.eq_def]
      split
      · have colon : endsAuthority true ':' := ends
        exact absurd colon (by decide)
      · rfl
  | some port =>
      have text : (portText (some port)).toList = ':' :: Nat.toDigits 10 port.toNat := by
        rw [portText, String.toList_append, toList_toString]
        rfl
      have digits : ∀ c ∈ Nat.toDigits 10 port.toNat, c.isDigit := fun c member =>
        Nat.isDigit_of_mem_toDigits (by decide) (by decide) member
      have stops : tail.head?.all (!Char.isDigit ·) := by
        cases tail with
        | nil => rfl
        | cons c rest => simpa using digit_of_endsAuthority c (by simpa using ends)
      obtain ⟨take, drop⟩ := span_stop Char.isDigit _ tail digits stops
      have value := digitsValue_toDigits 10 port.toNat (by decide) (by decide)
      have nonempty : (Nat.toDigits 10 port.toNat).isEmpty = false := by
        simp [Nat.toDigits_ne_nil]
      rw [text, List.cons_append, readOptionalPort, readPort, take, drop, value, nonempty]
      simp only
      rw [if_neg, UInt16.ofNat_toNat]
      · rfl
      · have small : port.toNat < 65536 := port.toNat_lt
        rw [ends]
        simp only [Bool.not_true, Bool.false_eq_true, or_false]
        omega

theorem readAuthority_text (scheme : String) (special : Bool) (username : String)
    (password : Option String) (h : Host) (written : Option UInt16) (tail : List Char)
    (encoded : Encoded username password) (legal : h.Legal special) (nonempty : h.text ≠ "")
    (ends : tail.head?.all (endsAuthority special)) :
    readAuthority scheme special
        ((credentials username password ++ h.text ++ portText written).toList ++ tail) =
      (readHost special h.text.toList).map fun host =>
        (⟨username, password, host, if written = defaultPort? scheme then none else written⟩,
          tail) := by
  have place : ∀ c ∈ h.text.toList ++ (portText written).toList, isHostChar c := by
    intro c member
    rcases List.mem_append.mp member with name | port
    · exact h.mem_text special legal c name
    · exact mem_portText written c port
  have named : h.text.toList ≠ [] := fun empty => nonempty (String.toList_inj.mp empty)
  have absent : '@' ∉ h.text.toList ++ (portText written).toList := fun member =>
    (of_isHostChar '@' (place '@' member)).2.1 rfl
  have text : (credentials username password ++ h.text ++ portText written).toList =
      (credentials username password).toList ++ (h.text.toList ++ (portText written).toList) := by
    rw [String.toList_append, String.toList_append, List.append_assoc]
  have within : ∀ c ∈ (credentials username password ++ h.text ++ portText written).toList,
      !endsAuthority special c := by
    intro c member
    have inside : endsAuthority true c = false := by
      rw [text, List.mem_append] at member
      rcases member with front | back
      · exact (mem_credentials username password encoded c front).2
      · exact (of_isHostChar c (place c back)).2.2
    rw [Bool.not_eq_true']
    exact Bool.eq_false_iff.mpr fun other =>
      Bool.eq_false_iff.mp inside (endsAuthority_le special c other)
  have stops : tail.head?.all fun c => !!endsAuthority special c := by
    simpa only [Bool.not_not] using ends
  have later : tail.head?.all (endsAuthority true) := by
    cases tail with
    | nil => rfl
    | cons c rest => exact endsAuthority_le special c ends
  obtain ⟨take, drop⟩ := span_stop (fun c => !endsAuthority special c) _ tail within stops
  rcases read_credentials username password _ encoded
    (List.append_ne_nil_of_left_ne_nil named _) absent with ⟨proper, userinfo, split, read⟩
  have host := h.splitHost_text special legal _ (head?_portText written)
  have port := readOptionalPort_text scheme written tail later
  rw [readAuthority, take, drop, text, split]
  simp only [read, host, port, named, false_and, if_false]
  rw [if_neg fun both => proper both.1]
  cases readHost special h.text.toList with
  | error cause => rfl
  | ok read => rfl

theorem port_unlike_default (scheme : String) (number : Option UInt16) :
    (if number = defaultPort? scheme then none else number) = none ∨
      (if number = defaultPort? scheme then none else number) ≠ defaultPort? scheme := by
  by_cases implied : number = defaultPort? scheme
  · exact .inl (if_pos implied)
  · rw [if_neg implied]
    exact .inr implied

theorem of_readOptionalPort (scheme : String) (cs rest : List Char) (port : Option UInt16)
    (read : readOptionalPort scheme cs = .ok (port, rest)) :
    port = none ∨ port ≠ defaultPort? scheme := by
  rw [readOptionalPort.eq_def] at read
  split at read
  · rw [readPort] at read
    simp only at read
    split at read
    · cases read
    · cases read
      exact port_unlike_default scheme _
  · cases read
    exact .inl rfl

def authorityOf (special : Bool) (cs : List Char) : List Char :=
  cs.takeWhile fun c => !endsAuthority special c

def writtenPlace (special : Bool) (cs : List Char) : List Char :=
  ((splitLastAt (authorityOf special cs)).getD ([], authorityOf special cs)).2

theorem place_of_readAuthority (scheme : String) (special : Bool) (cs rest : List Char)
    (a : Authority) (read : readAuthority scheme special cs = .ok (a, rest)) :
    readUserinfo ((splitLastAt (cs.takeWhile fun c => !endsAuthority special c)).elim [] Prod.fst) =
        (a.username, a.password) ∧
      readHost special (splitHost false (writtenPlace special cs)).1 = .ok a.host ∧
      readOptionalPort scheme ((splitHost false (writtenPlace special cs)).2 ++
        cs.dropWhile fun c => !endsAuthority special c) = .ok (a.port, rest) ∧
      ((splitHost false (writtenPlace special cs)).1 = [] → a.username = "" ∧ a.password = none) := by
  rw [readAuthority] at read
  simp only [bind, Except.bind, throw, throwThe, MonadExceptOf.throw, pure, Except.pure] at read
  split at read
  · cases read
  · split at read
    · cases read
    · rename_i host found
      split at read
      · cases read
      · split at read
        · cases read
        · rename_i port ported
          split at read
          · cases read
          · rename_i named
            cases read
            refine ⟨?_, found, ported, fun empty => ?_⟩
            · cases splitLastAt (cs.takeWhile fun c => !endsAuthority special c) <;> rfl
            · by_contra credentials
              exact named ⟨empty, credentials⟩

theorem parts_of_readAuthority (scheme : String) (special : Bool) (cs rest : List Char)
    (a : Authority) (read : readAuthority scheme special cs = .ok (a, rest)) :
    ∃ name after,
      readUserinfo ((splitLastAt (cs.takeWhile fun c => !endsAuthority special c)).elim [] Prod.fst) =
          (a.username, a.password) ∧
        readHost special name = .ok a.host ∧
        readOptionalPort scheme after = .ok (a.port, rest) ∧
        (name = [] → a.username = "" ∧ a.password = none) :=
  ⟨_, _, place_of_readAuthority scheme special cs rest a read⟩

theorem of_readAuthority (scheme : String) (special : Bool) (cs rest : List Char) (a : Authority)
    (read : readAuthority scheme special cs = .ok (a, rest)) :
    Encoded a.username a.password ∧ a.host.Legal special ∧
      (a.port = none ∨ a.port ≠ defaultPort? scheme) := by
  obtain ⟨name, after, user, host, port, -⟩ := parts_of_readAuthority scheme special cs rest a read
  have encoded := encoded_readUserinfo
    ((splitLastAt (cs.takeWhile fun c => !endsAuthority special c)).elim [] Prod.fst)
  rw [user] at encoded
  exact ⟨encoded, Host.legal_of_readHost special name a.host host,
    of_readOptionalPort scheme after _ _ port⟩

end ProxyCheck.Url
