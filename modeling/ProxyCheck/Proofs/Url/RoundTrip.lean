import ProxyCheck.Proofs.Url.Authority
import ProxyCheck.Proofs.Url.Path

/-! The text of a URL is read as that URL. -/
namespace ProxyCheck.Url

/-- A blank or a control, cleaned away at both ends of a text. -/
def isLow (c : Char) : Bool :=
  c.toNat ≤ 0x20

/-- Neither a tab nor a line end; those are cleaned away anywhere. -/
def isKept (c : Char) : Bool :=
  c ≠ '\t' && c ≠ '\n' && c ≠ '\r'

theorem clean_eq (text : List Char) : clean text = (trimBoth isLow text).filter isKept := rfl

theorem of_isVisible (c : Char) (visible : isVisible c) : isLow c = false ∧ isKept c := by
  have ascii : c.toNat < 0x80 := by
    simp only [isVisible, Bool.and_eq_true, decide_eq_true_eq] at visible
    omega
  exact of_ascii (fun c => isVisible c → isLow c = false ∧ isKept c) (by decide) c ascii visible

theorem clean_visible (cs : List Char) (visible : ∀ c ∈ cs, isVisible c) : clean cs = cs := by
  rw [clean_eq, trimBoth_eq_self _ _ fun c member => (of_isVisible c (visible c member)).1,
    List.filter_eq_self]
  intro c member
  exact (of_isVisible c (visible c member)).2

theorem clean_append (front text : List Char) (visible : ∀ c ∈ front, isVisible c) (some : front ≠ [])
    (nonempty : clean text ≠ []) :
    ∃ lead, (∀ c ∈ lead, isLow c) ∧ clean (front ++ text) = front ++ (lead ++ clean text) := by
  have whole := List.takeWhile_append_dropWhile (p := isLow) (l := text)
  have first := List.head?_dropWhile_not isLow text
  cases rest : text.dropWhile isLow with
  | nil =>
      rw [clean_eq, trimBoth, rest] at nonempty
      exact absurd rfl nonempty
  | cons c back =>
      rw [rest] at whole first
      have stop : isLow c = false := by simpa using first
      obtain ⟨d, others, rfl⟩ := List.exists_cons_of_ne_nil some
      have shown : ∀ x ∈ d :: others, isLow x = false ∧ isKept x := fun x member =>
        of_isVisible x (visible x member)
      have long := trimBoth_between isLow [] (others ++ text.takeWhile isLow) back d c
        (shown d List.mem_cons_self).1 stop
      have short : trimBoth isLow text = c :: dropTrailing isLow back := by
        rw [trimBoth, rest]
        exact dropTrailing_append_cons isLow [] back c stop
      have kept : (d :: others).filter isKept = d :: others :=
        List.filter_eq_self.mpr fun x member => (shown x member).2
      refine ⟨(text.takeWhile isLow).filter isKept, ?_, ?_⟩
      · intro x member
        exact List.mem_takeWhile_imp (List.mem_of_mem_filter member)
      · have joined : d :: others ++ text =
            [] ++ d :: ((others ++ text.takeWhile isLow) ++ c :: back) := by
          rw [List.nil_append, List.append_assoc, whole]
          rfl
        calc clean (d :: others ++ text)
            = ((d :: others) ++ (text.takeWhile isLow ++ c :: dropTrailing isLow back)).filter isKept := by
              rw [clean_eq, joined, long]
              simp
          _ = _ := by
              rw [List.filter_append, List.filter_append, kept, clean_eq, short]

def isSpelled (scheme : String) : Bool :=
  scheme.toList.head?.any Char.isAlpha &&
    scheme.toList.all fun c => isSchemeChar c && c.toLower == c && isVisible c

theorem splitScheme_append (raw rest : List Char) (letter : raw.head?.any Char.isAlpha)
    (schemed : ∀ c ∈ raw, isSchemeChar c) :
    splitScheme (raw ++ ':' :: rest) = some (String.ofList (raw.map Char.toLower), rest) := by
  obtain ⟨take, drop⟩ := span_stop isSchemeChar raw (':' :: rest) schemed rfl
  have head : (raw ++ ':' :: rest).head?.any Char.isAlpha := by
    cases raw with
    | nil => cases letter
    | cons c raw => exact letter
  rw [splitScheme, if_pos head, take, drop]
  rfl

theorem splitScheme_text (scheme : String) (rest : List Char) (spelled : isSpelled scheme) :
    splitScheme (scheme.toList ++ ':' :: rest) = some (scheme, rest) := by
  simp only [isSpelled, Bool.and_eq_true, List.all_eq_true, beq_iff_eq] at spelled
  obtain ⟨letter, all⟩ := spelled
  have lower : scheme.toList.map Char.toLower = scheme.toList := by
    calc scheme.toList.map Char.toLower = scheme.toList.map id :=
          List.map_congr_left fun c member => (all c member).1.2
      _ = scheme.toList := List.map_id _
  rw [splitScheme_append _ rest letter fun c member => (all c member).1.1, lower,
    String.ofList_toList]

theorem visible_scheme (scheme : String) (spelled : isSpelled scheme) :
    ∀ c ∈ scheme.toList, isVisible c := by
  simp only [isSpelled, Bool.and_eq_true, List.all_eq_true] at spelled
  exact fun c member => (spelled.2 c member).2

theorem colon_not_mem (scheme : String) (spelled : isSpelled scheme) :
    ':' ∉ scheme.toList := by
  simp only [isSpelled, Bool.and_eq_true, List.all_eq_true] at spelled
  intro member
  exact absurd (spelled.2 ':' member).1.1 (by decide)

theorem ofChars_authority (scheme : String) (cs : List Char) (spelled : isSpelled scheme)
    (kind : SchemeKind.of scheme ≠ .file) (visible : ∀ c ∈ cs, isVisible c)
    (inside : cs.head?.all (!isSlash true ·)) :
    ofChars (scheme.toList ++ ':' :: '/' :: '/' :: cs) =
      readWithAuthority scheme (SchemeKind.of scheme).isSpecial cs := by
  have shown : ∀ c ∈ scheme.toList ++ ':' :: '/' :: '/' :: cs, isVisible c := by
    intro c member
    rcases List.mem_append.mp member with front | member
    · exact visible_scheme scheme spelled c front
    · simp only [List.mem_cons] at member
      rcases member with rfl | rfl | rfl | member
      · decide
      · decide
      · decide
      · exact visible c member
  have slash : isSlash true '/' := rfl
  rw [ofChars, clean_visible _ shown, splitScheme_text scheme _ spelled]
  cases same : SchemeKind.of scheme with
  | file => exact absurd same kind
  | other => simp only [same, SchemeKind.isSpecial]
  | special =>
      have stops : cs.dropWhile (isSlash true) = cs := by
        cases cs with
        | nil => rfl
        | cons c rest =>
            have other : isSlash true c = false := by simpa using inside
            exact List.dropWhile_cons_of_neg (by simp [other])
      simp only [same, SchemeKind.isSpecial]
      rw [List.dropWhile_cons_of_pos slash, List.dropWhile_cons_of_pos slash, stops]

theorem mem_place (special : Bool) (username : String) (password : Option String) (h : Host)
    (written : Option UInt16) (encoded : Encoded username password) (legal : h.Legal special) :
    ∀ c ∈ (credentials username password ++ h.text ++ portText written).toList,
      isVisible c ∧ endsAuthority true c = false := by
  intro c member
  simp only [String.toList_append, List.mem_append] at member
  rcases member with (front | name) | port
  · exact mem_credentials username password encoded c front
  · obtain ⟨shown, -, inside⟩ := of_isHostChar c (h.mem_text special legal c name)
    exact ⟨shown, inside⟩
  · obtain ⟨shown, -, inside⟩ := of_isHostChar c (mem_portText written c port)
    exact ⟨shown, inside⟩

theorem ofChars_text (scheme username : String) (password : Option String) (h : Host)
    (written : Option UInt16) (tail : List Char) (spelled : isSpelled scheme)
    (kind : SchemeKind.of scheme ≠ .file) (encoded : Encoded username password)
    (legal : h.Legal (SchemeKind.of scheme).isSpecial) (nonempty : h.text ≠ "")
    (visible : ∀ c ∈ tail, isVisible c)
    (ends : tail.head?.all (endsAuthority (SchemeKind.of scheme).isSpecial)) :
    ofChars (scheme.toList ++ ':' :: '/' :: '/' ::
        ((credentials username password ++ h.text ++ portText written).toList ++ tail)) =
      (readHost (SchemeKind.of scheme).isSpecial h.text.toList).map fun host =>
        finish scheme (SchemeKind.of scheme).isSpecial
          (some ⟨username, password, host,
            if written = defaultPort? scheme then none else written⟩)
          (readPath (SchemeKind.of scheme).isSpecial) tail := by
  have place := mem_place _ username password h written encoded legal
  have shown : ∀ c ∈ (credentials username password ++ h.text ++ portText written).toList ++ tail,
      isVisible c := by
    intro c member
    rcases List.mem_append.mp member with front | back
    · exact (place c front).1
    · exact visible c back
  have some : (credentials username password ++ h.text ++ portText written).toList ≠ [] := by
    intro empty
    simp only [String.toList_append, List.append_eq_nil_iff] at empty
    exact nonempty (String.toList_inj.mp empty.1.2)
  have inside : ((credentials username password ++ h.text ++ portText written).toList ++
      tail).head?.all (!isSlash true ·) := by
    rcases List.exists_cons_of_ne_nil some with ⟨c, rest, same⟩
    have first := (place c (same ▸ List.mem_cons_self)).2
    simp only [endsAuthority, Bool.or_eq_false_iff] at first
    rw [same, List.cons_append, List.head?_cons, Option.all_some, first.1]
    rfl
  rw [ofChars_authority scheme _ spelled kind shown inside, readWithAuthority,
    readAuthority_text scheme _ username password h written tail encoded legal nonempty ends]
  cases readHost (SchemeKind.of scheme).isSpecial h.text.toList with
  | error cause => rfl
  | ok host => rfl

theorem readQuery_text (query : Option String) (rest : List Char)
    (kept : ∀ q, query = some q → ∀ c ∈ q.toList, Percent.keeps Percent.specialQuery c)
    (next : rest.head?.all (· == '#')) :
    readQuery true ((query.elim "" ("?" ++ ·)).toList ++ rest) = (query, rest) := by
  cases query with
  | none =>
      rw [Option.elim_none, String.toList_empty, List.nil_append, readQuery.eq_def]
      split
      · simp at next
      · rfl
  | some q =>
      have text : ((some q).elim "" ("?" ++ ·)).toList ++ rest = '?' :: (q.toList ++ rest) := by
        simp
      have inside : ∀ c ∈ q.toList, decide (c ≠ '#') := fun c member =>
        decide_eq_true (Percent.of_keeps_query c
          (Percent.query_of_specialQuery c (kept q rfl c member))).2
      have stops : rest.head?.all fun c => !decide (c ≠ '#') := by
        cases rest with
        | nil => rfl
        | cons c rest => simpa using next
      obtain ⟨take, drop⟩ := span_stop (fun c => decide (c ≠ '#')) q.toList rest inside stops
      rw [text, readQuery, take, drop]
      simp only [if_true]
      rw [Percent.encode_eq_self _ _ (kept q rfl), String.ofList_toList]

theorem readFragment_text (fragment : Option String)
    (kept : ∀ f, fragment = some f → ∀ c ∈ f.toList, Percent.keeps Percent.fragment c) :
    readFragment (fragment.elim "" ("#" ++ ·)).toList = fragment := by
  cases fragment with
  | none => rfl
  | some f =>
      have text : ((some f).elim "" ("#" ++ ·)).toList = '#' :: f.toList := by simp
      rw [text, readFragment, Percent.encode_eq_self _ _ (kept f rfl), String.ofList_toList]

theorem kept_readQuery (cs : List Char) (q : String) (read : (readQuery true cs).1 = some q) :
    ∀ c ∈ q.toList, Percent.keeps Percent.specialQuery c := by
  rw [readQuery.eq_def] at read
  split at read
  · cases read
    rw [String.toList_ofList]
    exact Percent.keeps_of_mem_encode _ (fun c sign => (Percent.signs_kept c sign).2.2.2.2.1) _
  · cases read

theorem visible_readQuery (special : Bool) (cs : List Char) (q : String)
    (read : (readQuery special cs).1 = some q) : ∀ c ∈ q.toList, isVisible c := by
  intro c member
  cases special with
  | true =>
      have kept := kept_readQuery cs q read c member
      exact (Percent.of_keeps_query c (Percent.query_of_specialQuery c kept)).1
  | false =>
      rw [readQuery.eq_def] at read
      split at read
      · cases read
        rw [String.toList_ofList] at member
        refine (Percent.of_keeps_query c ?_).1
        exact Percent.keeps_of_mem_encode _ (fun c sign => (Percent.signs_kept c sign).2.2.2.1) _ c
          member
      · cases read

theorem kept_readFragment (cs : List Char) (f : String) (read : readFragment cs = some f) :
    ∀ c ∈ f.toList, Percent.keeps Percent.fragment c := by
  rw [readFragment.eq_def] at read
  split at read
  · cases read
    rw [String.toList_ofList]
    exact Percent.keeps_of_mem_encode _ (fun c sign => (Percent.signs_kept c sign).2.2.2.2.2) _
  · cases read

/-- A URL of the web as its text is written. -/
structure Written (u : Url) : Prop where
  spelled : isSpelled u.scheme
  kind : SchemeKind.of u.scheme = .special
  encoded : Encoded u.username u.password
  host : ∃ h : Host, u.host = some h ∧ h.Legal true ∧ h.text ≠ ""
  port : u.port = none ∨ u.port ≠ defaultPort? u.scheme
  path : ∃ segments, u.path = .segments segments ∧ segments ≠ [] ∧
    ∀ segment ∈ segments, Settled segment
  query : ∀ q, u.query = some q → ∀ c ∈ q.toList, Percent.keeps Percent.specialQuery c
  fragment : ∀ f, u.fragment = some f → ∀ c ∈ f.toList, Percent.keeps Percent.fragment c

/-- A URL of the web as its text is read, with a host that is its own ASCII form. -/
structure Canonical (u : Url) : Prop where
  spelled : isSpelled u.scheme
  kind : SchemeKind.of u.scheme = .special
  encoded : Encoded u.username u.password
  host : ∃ h : Host, u.host = some h ∧ h.Legal true ∧ h.Stable ∧ h.text ≠ ""
  port : u.port = none ∨ u.port ≠ defaultPort? u.scheme
  path : ∃ segments, u.path = .segments segments ∧ segments ≠ [] ∧
    ∀ segment ∈ segments, Settled segment
  query : ∀ q, u.query = some q → ∀ c ∈ q.toList, Percent.keeps Percent.specialQuery c
  fragment : ∀ f, u.fragment = some f → ∀ c ∈ f.toList, Percent.keeps Percent.fragment c

theorem Canonical.written (u : Url) (canonical : u.Canonical) : u.Written := by
  obtain ⟨h, hosted, legal, -, named⟩ := canonical.host
  constructor
  case spelled => exact canonical.spelled
  case kind => exact canonical.kind
  case encoded => exact canonical.encoded
  case host => exact ⟨h, hosted, legal, named⟩
  case port => exact canonical.port
  case path => exact canonical.path
  case query => exact canonical.query
  case fragment => exact canonical.fragment

theorem Written.canonical (u : Url) (written : u.Written) (stable : ∀ h, u.host = some h → h.Stable) :
    u.Canonical := by
  obtain ⟨h, hosted, legal, named⟩ := written.host
  constructor
  case spelled => exact written.spelled
  case kind => exact written.kind
  case encoded => exact written.encoded
  case host => exact ⟨h, hosted, legal, stable h hosted, named⟩
  case port => exact written.port
  case path => exact written.path
  case query => exact written.query
  case fragment => exact written.fragment

theorem head?_mark (mark : String) (c : Char) (same : mark.toList = [c]) (part : Option String) :
    (part.elim "" (mark ++ ·)).toList.head?.all (· == c) := by
  cases part with
  | none => rfl
  | some text => simp [same]

theorem visible_mark (mark : String) (sign : Char) (same : mark.toList = [sign])
    (shown : isVisible sign) (part : Option String)
    (visible : ∀ text, part = some text → ∀ c ∈ text.toList, isVisible c) :
    ∀ c ∈ (part.elim "" (mark ++ ·)).toList, isVisible c := by
  intro c member
  cases part with
  | none => cases member
  | some text =>
      rw [Option.elim_some, String.toList_append, List.mem_append] at member
      rcases member with mark | inside
      · rw [same, List.mem_singleton] at mark
        rw [mark]
        exact shown
      · exact visible text rfl c inside

def tail (u : Url) : List Char :=
  u.path.text.toList ++ ((u.query.elim "" ("?" ++ ·)).toList ++
    (u.fragment.elim "" ("#" ++ ·)).toList)

theorem visible_tail (u : Url) (written : u.Written) : ∀ c ∈ u.tail, isVisible c := by
  rcases written.path with ⟨segments, path, nonempty, settled⟩
  intro c member
  simp only [tail, List.mem_append] at member
  rcases member with inside | inside | inside
  · rw [path] at inside
    exact (mem_segments segments (fun segment found => (settled segment found).kept) c inside).1
  · refine visible_mark "?" '?' rfl (by decide) u.query (fun q same c member => ?_) c inside
    exact (Percent.of_keeps_query c
      (Percent.query_of_specialQuery c (written.query q same c member))).1
  · refine visible_mark "#" '#' rfl (by decide) u.fragment (fun f same c member => ?_) c inside
    exact Percent.of_keeps_fragment c (written.fragment f same c member)

theorem tail_finish (scheme : String) (special : Bool) (a : Authority) (cs : List Char) :
    (∀ c ∈ (finish scheme special (some a) (readPath special) cs).tail, isVisible c) ∧
      (finish scheme special (some a) (readPath special) cs).tail.head?.all
        (endsAuthority special) := by
  obtain ⟨segments, path, kept⟩ := kept_readPath special (cs.takeWhile fun c => !endsPath c)
  constructor
  · intro c member
    simp only [tail, finish, List.mem_append] at member
    rcases member with inside | inside | inside
    · rw [path] at inside
      exact (mem_segments segments kept c inside).1
    · exact visible_mark "?" '?' rfl (by decide) _ (visible_readQuery special _) c inside
    · refine visible_mark "#" '#' rfl (by decide) _ (fun f read c member => ?_) c inside
      exact Percent.of_keeps_fragment c (kept_readFragment _ f read c member)
  · simp only [tail, finish, path]
    cases segments with
    | cons segment rest =>
        rw [toList_segments]
        rfl
    | nil =>
        cases (readQuery special (cs.dropWhile fun c => !endsPath c)).1 with
        | some q => simp [Path.text, endsAuthority, endsPath]
        | none =>
            cases readFragment (readQuery special (cs.dropWhile fun c => !endsPath c)).2 with
            | some f => simp [Path.text, endsAuthority, endsPath]
            | none => rfl

theorem toList_text (u : Url) (h : Host) (hosted : u.host = some h) :
    u.text.toList = u.scheme.toList ++ ':' :: '/' :: '/' ::
      ((credentials u.username u.password ++ h.text ++ portText u.port).toList ++ u.tail) := by
  have pathText : u.pathText = u.path.text := by rw [Url.pathText, hosted]
  rw [Url.text, hosted, pathText, tail]
  simp

theorem visible_text (u : Url) (written : u.Written) : ∀ c ∈ u.text.toList, isVisible c := by
  rcases written.host with ⟨h, hosted, legal, named⟩
  intro c member
  rw [u.toList_text h hosted] at member
  simp only [List.mem_append, List.mem_cons] at member
  rcases member with scheme | rfl | rfl | rfl | place | tail
  · exact visible_scheme u.scheme written.spelled c scheme
  · decide
  · decide
  · decide
  · exact (mem_place true _ _ h _ written.encoded legal c place).1
  · exact u.visible_tail written c tail

theorem finish_text (u : Url) (a : Authority) (canonical : u.Canonical) :
    finish u.scheme true (some a) (readPath true) u.tail =
      { u with
        username := a.username, password := a.password, host := some a.host, port := a.port } := by
  rcases canonical.path with ⟨segments, path, nonempty, settled⟩
  have hash := head?_mark "#" '#' rfl u.fragment
  have within : ∀ c ∈ u.path.text.toList, !endsPath c := by
    intro c member
    rw [path] at member
    rw [(mem_segments segments (fun segment found => (settled segment found).kept) c member).2]
    rfl
  have stops : ((u.query.elim "" ("?" ++ ·)).toList ++
      (u.fragment.elim "" ("#" ++ ·)).toList).head?.all fun c => !!endsPath c := by
    cases u.query with
    | none =>
        cases u.fragment with
        | none => rfl
        | some f => simp [endsPath]
    | some q => simp [endsPath]
  obtain ⟨take, drop⟩ := span_stop (fun c => !endsPath c) _ _ within stops
  rw [finish, tail, take, drop, readQuery_text u.query _ canonical.query hash]
  simp only
  rw [readFragment_text u.fragment canonical.fragment, path, readPath_text segments nonempty settled]
  rfl

theorem ofChars_canonical (u : Url) (canonical : u.Canonical) : ofChars u.text.toList = .ok u := by
  rcases canonical.host with ⟨h, host, legal, stable, named⟩
  rcases canonical.path with ⟨segments, path, nonempty, settled⟩
  have special : (SchemeKind.of u.scheme).isSpecial = true := by rw [canonical.kind]; rfl
  have kind : SchemeKind.of u.scheme ≠ .file := by rw [canonical.kind]; exact nofun
  have ends : u.tail.head?.all (endsAuthority true) := by
    rcases List.exists_cons_of_ne_nil nonempty with ⟨head, rest, rfl⟩
    rw [tail, path, toList_segments]
    rfl
  have read := ofChars_text u.scheme u.username u.password h u.port _ canonical.spelled kind
    canonical.encoded (special ▸ legal) named (u.visible_tail (canonical.written u)) (special ▸ ends)
  rw [special, h.readHost_text true legal stable] at read
  have port : (if u.port = defaultPort? u.scheme then none else u.port) = u.port := by
    rcases canonical.port with none | other
    · rw [none, ite_self]
    · exact if_neg other
  rw [u.toList_text h host, read, port]
  simp only [Except.map]
  rw [u.finish_text _ canonical, ← host]

theorem of_bind {ε α β : Type} (first : Except ε α) (next : α → Except ε β) (b : β)
    (read : (first >>= next) = .ok b) : ∃ a, first = .ok a ∧ next a = .ok b := by
  cases first with
  | error cause => cases read
  | ok a => exact ⟨a, rfl, read⟩

theorem of_readWithAuthority (scheme : String) (special : Bool) (cs : List Char) (u : Url)
    (read : readWithAuthority scheme special cs = .ok u) :
    ∃ a rest, readAuthority scheme special cs = .ok (a, rest) ∧
      u = finish scheme special (some a) (readPath special) rest := by
  obtain ⟨⟨a, rest⟩, authority, made⟩ := of_bind _ _ u read
  cases made
  exact ⟨a, rest, authority, rfl⟩

theorem of_readFile (cs : List Char) (u : Url) (read : readFile cs = .ok u) :
    ∃ host rest, u = finish "file" true (some ⟨"", none, host, none⟩) (readPath true) rest := by
  rw [readFile.eq_def] at read
  split at read
  · split at read
    · obtain ⟨⟨host, rest⟩, -, made⟩ := of_bind _ _ u read
      cases made
      exact ⟨host, rest, rfl⟩
    · cases read
      exact ⟨_, _, rfl⟩
  · cases read
    exact ⟨_, _, rfl⟩

theorem eq_file_of_kind (scheme : String) (kind : SchemeKind.of scheme = .file) :
    scheme = "file" := by
  rw [SchemeKind.of] at kind
  split at kind
  · assumption
  · split at kind <;> cases kind

/-- How a URL has been read from what follows its scheme: by the rules of files, of the web, of other
schemes with an authority, or as a bare path. -/
inductive ReadAs (u : Url) (rest : List Char) : Prop where
  | file (host : Host) (tail : List Char)
    (whole : u = finish "file" true (some ⟨"", none, host, none⟩) (readPath true) tail)
  | web (a : Authority) (tail : List Char) (kind : SchemeKind.of u.scheme = .special)
    (authority : readAuthority u.scheme true (rest.dropWhile (isSlash true)) = .ok (a, tail))
    (whole : u = finish u.scheme true (some a) (readPath true) tail)
  | named (place : List Char) (a : Authority) (tail : List Char)
    (kind : SchemeKind.of u.scheme = .other) (starts : rest = '/' :: '/' :: place)
    (authority : readAuthority u.scheme false place = .ok (a, tail))
    (whole : u = finish u.scheme false (some a) (readPath false) tail)
  | bare (kind : SchemeKind.of u.scheme = .other)
    (whole : u = finish u.scheme false none readBarePath rest)

theorem readAs_of_ofChars (cs : List Char) (u : Url) (read : ofChars cs = .ok u) :
    ∃ rest, splitScheme (clean cs) = some (u.scheme, rest) ∧ ReadAs u rest := by
  rw [ofChars] at read
  split at read
  · cases read
  · rename_i scheme rest found
    split at read
    · rename_i kind
      obtain ⟨host, tail, rfl⟩ := of_readFile _ u read
      refine ⟨rest, ?_, .file host tail rfl⟩
      rw [found, eq_file_of_kind scheme kind]
      rfl
    · rename_i kind
      obtain ⟨a, tail, authority, rfl⟩ := of_readWithAuthority scheme true _ u read
      exact ⟨rest, found, .web a tail kind authority rfl⟩
    · rename_i kind
      split at read
      · obtain ⟨a, tail, authority, rfl⟩ := of_readWithAuthority scheme false _ u read
        exact ⟨_, found, .named _ a tail kind rfl authority rfl⟩
      · cases read
        exact ⟨_, found, .bare kind rfl⟩

theorem of_ofChars (cs : List Char) (u : Url) (read : ofChars cs = .ok u)
    (kind : SchemeKind.of u.scheme ≠ .file)
    (hosted : SchemeKind.of u.scheme = .other → u.host ≠ none) :
    ∃ cs' a rest, readAuthority u.scheme (SchemeKind.of u.scheme).isSpecial cs' = .ok (a, rest) ∧
      u = finish u.scheme (SchemeKind.of u.scheme).isSpecial (some a)
        (readPath (SchemeKind.of u.scheme).isSpecial) rest := by
  obtain ⟨after, -, how⟩ := readAs_of_ofChars cs u read
  cases how with
  | file host tail whole =>
      rw [whole] at kind
      exact absurd rfl kind
  | web a tail special authority whole =>
      rw [special]
      exact ⟨_, a, tail, authority, whole⟩
  | named place a tail other starts authority whole =>
      rw [other]
      exact ⟨place, a, tail, authority, whole⟩
  | bare other whole =>
      rw [whole] at hosted
      exact absurd rfl (hosted other)

theorem authority_of_ofChars (cs : List Char) (u : Url) (h : Host) (read : ofChars cs = .ok u)
    (kind : SchemeKind.of u.scheme ≠ .file) (hosted : u.host = some h) :
    Encoded u.username u.password ∧ h.Legal (SchemeKind.of u.scheme).isSpecial ∧
      (u.port = none ∨ u.port ≠ defaultPort? u.scheme) := by
  obtain ⟨cs', a, rest, authority, whole⟩ := of_ofChars cs u read kind fun _ => by simp [hosted]
  obtain ⟨encoded, legal, port⟩ := of_readAuthority _ _ cs' rest a authority
  have host : some a.host = some h := by
    rw [← hosted, whole]
    rfl
  cases host
  rw [whole]
  exact ⟨encoded, legal, port⟩

theorem text_ne_empty (h : Host) (legal : h.Legal true) : h.text ≠ "" := by
  have listed : h.text.toList ≠ [] := by
    cases legal with
    | domain name nonempty letters unlike =>
        rw [Host.text, String.toList_ofList]
        exact nonempty
    | ipv4 a => exact a.text_ne_nil
    | ipv6 _ a =>
        rw [Host.toList_ipv6]
        exact List.cons_ne_nil _ _
  intro empty
  rw [empty] at listed
  exact listed rfl

theorem text_of_readHost (special : Bool) (name : List Char) (h : Host)
    (read : readHost special name = .ok h) (nonempty : name ≠ []) : h.text ≠ "" := by
  cases special with
  | true => exact text_ne_empty h (Host.legal_of_readHost true name h read)
  | false =>
      rw [readHost, if_neg (by decide), Host.ofOpaque.eq_def] at read
      split at read
      · exact text_ne_empty h (Host.legal_ofBracketed true _ h read)
      · split at read
        · cases read
        · cases read
          intro empty
          have listed := congrArg String.toList empty
          rw [Host.text, String.toList_ofList] at listed
          exact Percent.encode_ne_nil _ name nonempty listed

/-- A password needs a host, one with a name; a file has none. -/
theorem host_of_password (cs : List Char) (u : Url) (read : ofChars cs = .ok u)
    (secret : u.password.isSome) :
    SchemeKind.of u.scheme ≠ .file ∧ ∃ h, u.host = some h ∧ h.text ≠ "" := by
  have named (special : Bool) (place tail : List Char) (a : Authority)
      (authority : readAuthority u.scheme special place = .ok (a, tail))
      (same : a.password = u.password) : a.host.text ≠ "" := by
    obtain ⟨name, after, -, host, -, credentials⟩ :=
      parts_of_readAuthority u.scheme special place tail a authority
    refine text_of_readHost special name a.host host fun empty => ?_
    rw [← same, (credentials empty).2] at secret
    cases secret
  obtain ⟨after, -, how⟩ := readAs_of_ofChars cs u read
  cases how with
  | file host tail whole =>
      rw [whole] at secret
      cases secret
  | web a tail special authority whole =>
      refine ⟨by simp [special], a.host, by rw [whole]; rfl, named true _ tail a authority ?_⟩
      rw [whole]
      rfl
  | named place a tail other starts authority whole =>
      refine ⟨by simp [other], a.host, by rw [whole]; rfl, named false place tail a authority ?_⟩
      rw [whole]
      rfl
  | bare other whole =>
      rw [whole] at secret
      cases secret

theorem written_of_ofChars (cs : List Char) (u : Url) (read : ofChars cs = .ok u)
    (spelled : isSpelled u.scheme) (kind : SchemeKind.of u.scheme = .special) : u.Written := by
  have proper : SchemeKind.of u.scheme ≠ .file := by rw [kind]; exact nofun
  have other : SchemeKind.of u.scheme = .other → u.host ≠ none := by rw [kind]; exact nofun
  obtain ⟨cs', a, rest, authority, whole⟩ := of_ofChars cs u read proper other
  obtain ⟨encoded, legal, port⟩ := of_readAuthority _ _ cs' rest a authority
  have special : (SchemeKind.of u.scheme).isSpecial = true := by rw [kind]; rfl
  rw [special] at whole legal
  have host : u.host = some a.host := by rw [whole]; rfl
  constructor
  case spelled => exact spelled
  case kind => exact kind
  case encoded =>
    rw [whole]
    exact encoded
  case host => exact ⟨a.host, host, legal, text_ne_empty a.host legal⟩
  case port =>
    rw [whole]
    exact port
  case path =>
    rw [whole]
    exact settled_readPath _
  case query =>
    rw [whole]
    exact kept_readQuery _
  case fragment =>
    rw [whole]
    exact kept_readFragment _

theorem canonical_of_ofChars (cs : List Char) (u : Url) (read : ofChars cs = .ok u)
    (spelled : isSpelled u.scheme) (kind : SchemeKind.of u.scheme = .special)
    (stable : ∀ h, u.host = some h → h.Stable) : u.Canonical :=
  (written_of_ofChars cs u read spelled kind).canonical u stable

theorem parse_text (address : String) (u : Url) (read : parse address = .ok u)
    (spelled : isSpelled u.scheme) (kind : SchemeKind.of u.scheme = .special)
    (stable : ∀ h, u.host = some h → h.Stable) : parse u.text = .ok u :=
  u.ofChars_canonical (canonical_of_ofChars address.toList u read spelled kind stable)

end ProxyCheck.Url
