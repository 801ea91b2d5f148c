import ProxyCheck.Proofs.Probe.Story
import ProxyCheck.Proofs.Probe.TargetSecrecy
import ProxyCheck.Proofs.Redaction.Userinfo

/-! What the log of a probe says of the password of its target. The target stands in the log twice:
in a message, which is redacted, and in a field, which is not. -/
namespace ProxyCheck

open Url (IsWord)

namespace Redaction

theorem isUserChar_of_isAlphanum (c : Char) (plain : c.isAlphanum) : isUserChar c :=
  of_ascii (fun c => c.isAlphanum → isUserChar c) (by decide +kernel) c
    (Url.ascii_of_isAlphanum c plain) plain

theorem isSecret_of_isWord (word : List Char) (isWord : IsWord word) : IsSecret word :=
  ⟨isWord.nonempty, fun c inside => isUserChar_of_isAlphanum c (isWord.plain c inside)⟩

theorem credentials_of_head (c : Char) (rest : List Char) (other : isLower c = false) :
    credentials (c :: rest) = none := by
  rw [credentials, if_neg (by simpa using other)]

theorem credentials_userless (scheme rest : List Char) (schemed : ∀ c ∈ scheme, isSchemeChar c) :
    credentials (scheme ++ ("://:".toList ++ rest)) = none := by
  by_contra some
  rw [← ne_eq, Option.ne_none_iff_exists'] at some
  obtain ⟨found, some⟩ := some
  obtain ⟨scheme', user, password, more, spelled, same, -⟩ := (credentials_eq_some_iff _ _).mp some
  have first := Url.span_stop isSchemeChar scheme ("://:".toList ++ rest) schemed rfl
  have second := Url.span_stop isSchemeChar scheme'
    ("://".toList ++ (user ++ ':' :: (password ++ '@' :: more))) spelled.scheme rfl
  have left : "://:".toList ++ rest = "://".toList ++ (user ++ ':' :: (password ++ '@' :: more)) := by
    rw [← first.2, same, second.2]
  obtain ⟨c, user, rfl⟩ := List.exists_cons_of_ne_nil spelled.named
  obtain ⟨rfl, -⟩ : ':' = c ∧ _ := by simpa using left
  exact absurd (spelled.user ':' List.mem_cons_self) (by decide)

theorem credentials_word (word rest : List Char) (colon : ':' ∉ word) :
    credentials (word ++ '@' :: rest) = none := by
  by_contra some
  rw [← ne_eq, Option.ne_none_iff_exists'] at some
  obtain ⟨found, some⟩ := some
  obtain ⟨scheme, user, password, more, spelled, same, -⟩ := (credentials_eq_some_iff _ _).mp some
  have absent : '@' ∉ scheme ++ [':'] := by
    rw [List.mem_append, List.mem_singleton, not_or]
    exact ⟨fun inside => absurd (spelled.scheme '@' inside) (by decide), by decide⟩
  have within := prefix_of_sign (scheme ++ [':']) word rest '@' absent
    ⟨"//".toList ++ (user ++ ':' :: (password ++ '@' :: more)), by simp [same]⟩
  exact colon (within.subset (by simp))

def userlessFront (scheme : String) : List Char :=
  "GET ".toList ++ (scheme.toList ++ "://:".toList)

theorem marked_userless (keyword scheme : String) (member : keyword ∈ keywords)
    (target : scheme ∈ targetSchemes) (front rest : List Char) (suffix : front <:+ userlessFront scheme)
    (nonempty : front ≠ []) : marked keyword.toList (front ++ rest) = none := by
  have apart : ∀ keyword ∈ keywords, ∀ scheme ∈ targetSchemes, ∀ front ∈ (userlessFront scheme).tails,
      front ≠ [] → ¬keyword.toList <+: front.map foldCase ∧ ¬front.map foldCase <+: keyword.toList := by
    decide +kernel
  exact marked_unlike keyword.toList front rest
    (apart keyword member scheme target front ((List.mem_tails _ _).mpr suffix) nonempty)

theorem sweep_userless (scheme : String) (target : scheme ∈ targetSchemes) (all : List String)
    (listed : ∀ keyword ∈ all, keyword ∈ keywords) (back : List Char) : ∃ out, ∀ word, IsWord word →
      sweep all (userlessFront scheme ++ (word ++ '@' :: back)) =
        userlessFront scheme ++ (word ++ '@' :: out) := by
  induction all generalizing back with
  | nil => exact ⟨back, fun _ _ => rfl⟩
  | cons keyword all ih =>
      have member := listed keyword List.mem_cons_self
      obtain ⟨out, same⟩ := ih (fun other later => listed other (List.mem_cons_of_mem keyword later))
        (Pattern.replaceAll (marked keyword.toList) back)
      refine ⟨out, fun word isWord => ?_⟩
      have passed := replaceAll_passing (marked keyword.toList) (userlessFront scheme)
        (word ++ '@' :: back) fun start suffix nonempty =>
          marked_userless keyword scheme member target start _ suffix nonempty
      rw [replaceAll_secret keyword member word back (isSecret_of_isWord word isWord).plain] at passed
      rw [← same word isWord, ← passed]
      rfl

theorem redactChars_userless (scheme : String) (target : scheme ∈ targetSchemes) (back : List Char) :
    ∃ out, ∀ word, IsWord word → redactChars (userlessFront scheme ++ (word ++ '@' :: back)) =
      userlessFront scheme ++ (word ++ '@' :: out) := by
  obtain ⟨swept, same⟩ := sweep_userless scheme target keywords (fun _ member => member) back
  have schemed : ∀ scheme ∈ targetSchemes, scheme.toList.all isSchemeChar := by decide
  refine ⟨Pattern.replaceAll credentials swept, fun word isWord => ?_⟩
  have nothing : ∀ start, start <:+ userlessFront scheme ++ word → start ≠ [] →
      credentials (start ++ '@' :: swept) = none := by
    intro start suffix nonempty
    rcases suffix_append_cases start _ _ suffix with inside | ⟨front, inside, filled, rfl⟩
    · exact credentials_word start swept fun colon =>
        isWord.not_mem word ':' rfl (inside.subset colon)
    · rcases suffix_append_cases front _ _ inside with late | ⟨head, early, some, rfl⟩
      · rcases suffix_append_cases front _ _ late with marks | ⟨part, piece, -, rfl⟩
        · obtain ⟨c, front, rfl⟩ := List.exists_cons_of_ne_nil filled
          exact credentials_of_head c _ (of_mem (isLower · = false) "://:".toList (by decide) c
            (marks.subset List.mem_cons_self))
        · rw [List.append_assoc, List.append_assoc]
          exact credentials_userless part _ fun c member =>
            List.all_eq_true.mp (schemed scheme target) c (piece.subset member)
      · obtain ⟨c, head, rfl⟩ := List.exists_cons_of_ne_nil some
        exact credentials_of_head c _ (of_mem (isLower · = false) "GET ".toList (by decide) c
          (early.subset List.mem_cons_self))
  have passed := replaceAll_passing credentials (userlessFront scheme ++ word) ('@' :: swept) nothing
  rw [List.append_assoc, List.append_assoc,
    replaceAll_of_none credentials '@' swept (credentials_of_head '@' swept (by decide))] at passed
  rw [redactChars_eq_sweep, same word isWord, passed]

end Redaction

open Redaction

theorem Url.toList_text_withPassword (u : Url) (h : Host) (hosted : u.host = some h) :
    ∃ back, ∀ word : String, (u.withPassword word).text.toList =
      urlFront u.scheme.toList u.username.toList ++ (word.toList ++ '@' :: back) := by
  refine ⟨h.text.toList ++ ((portText u.port).toList ++ u.tail), fun word => ?_⟩
  rw [(u.withPassword word).toList_text h hosted]
  simp [withPassword, credentials, urlFront, tail]

theorem Url.text_withPassword_inj (u : Url) (h : Host) (hosted : u.host = some h)
    (first second : String) :
    (u.withPassword first).text = (u.withPassword second).text ↔ first = second := by
  obtain ⟨back, text⟩ := u.toList_text_withPassword h hosted
  rw [← String.toList_inj, text first, text second, List.append_right_inj, List.append_left_inj,
    String.toList_inj]

theorem Url.leads_of_written (u : Url) (written : u.Written) (scheme : u.scheme ∈ targetSchemes)
    (named : u.username ≠ "") : Leads u.scheme.toList u.username.toList := by
  have schemes : ∀ scheme ∈ targetSchemes,
      scheme.toList.head?.any isLower ∧ scheme.toList.all Redaction.isSchemeChar := by decide
  constructor
  case starts => exact (schemes u.scheme scheme).1
  case scheme => exact fun c inside => List.all_eq_true.mp (schemes u.scheme scheme).2 c inside
  case named => exact fun empty => named (String.toList_inj.mp empty)
  case user =>
    intro c inside
    obtain ⟨visible, colon, sign, ends⟩ := Percent.of_keeps_userinfo c (written.encoded.username c inside)
    have slash : c ≠ '/' := by
      rintro rfl
      cases ends
    simp [isUserChar, colon, sign, slash, isBlank_of_visible c visible]

theorem message_probeStart (target proxy : String) (timeout : UInt64) (correlation : String)
    (front word back : List Char) (text : target.toList = front ++ (word ++ '@' :: back)) :
    (Note.probeStart target proxy timeout correlation).message.toList =
      "GET ".toList ++ (front ++ (word ++ '@' :: (back ++ (" via ".toList ++ proxy.toList)))) := by
  have spelled : (Note.probeStart target proxy timeout correlation).message =
      "GET " ++ target ++ " via " ++ proxy := rfl
  rw [spelled, String.toList_append, String.toList_append, String.toList_append, text,
    List.append_assoc, List.append_assoc, List.append_assoc, List.append_assoc]
  rfl

theorem fields_probeStart (target proxy : String) (timeout : UInt64) (correlation name : String) :
    (Note.probeStart target proxy timeout correlation).fields.get? name =
      if name = "target_url" then some (.string target)
      else (Note.probeStart "" proxy timeout correlation).fields.get? name := by
  rw [Note.fields, Note.fields, NameMap.get?_ofPairs, NameMap.get?_ofPairs]
  simp only [List.reverse_cons, List.reverse_nil, List.nil_append, List.cons_append, NamedPairs.find?]
  by_cases same : name = "target_url"
  · simp [same]
  · simp only [same, Ne.symm same, if_false]

def LogEntry.untargeted (e : LogEntry) : LogEntry :=
  { e with fields := e.fields.erase "target_url" }

namespace Probe

def startEntry (options : Options) (o : Occasion) (request : Request) : LogEntry :=
  (Note.probeStart request.target (maskPassword request.proxy) options.timeout.millis
    (correlation o.session)).entry o.session (o.clocks 0).timestamp

theorem startEntry_inj (options : Options) (o : Occasion) (ra rb : Request) (proxy : ra.proxy = rb.proxy) :
    startEntry options o ra = startEntry options o rb ↔ ra.target = rb.target := by
  constructor
  · intro same
    have fields := congrArg (fun e => e.fields.get? "target_url") same
    simp only [startEntry, Note.entry] at fields
    rw [fields_probeStart, fields_probeStart rb.target, if_pos rfl, if_pos rfl] at fields
    exact Json.string.inj (Option.some.inj fields)
  · intro target
    rw [startEntry, startEntry, target, proxy]

theorem untargeted_startEntry_iff (options : Options) (o : Occasion) (ra rb : Request)
    (proxy : ra.proxy = rb.proxy) :
    (startEntry options o ra).untargeted = (startEntry options o rb).untargeted ↔
      (startEntry options o ra).message = (startEntry options o rb).message := by
  constructor
  · intro same
    have message := congrArg LogEntry.message same
    exact message
  · intro message
    have fields : (startEntry options o ra).fields.erase "target_url" =
        (startEntry options o rb).fields.erase "target_url" := by
      refine NameMap.ext_get? _ _ fun name => ?_
      rw [startEntry, startEntry, Note.entry, Note.entry, NameMap.get?_erase, NameMap.get?_erase,
        fields_probeStart, fields_probeStart rb.target, proxy]
      split <;> rfl
    rw [LogEntry.untargeted, LogEntry.untargeted, message, fields]
    rfl

end Probe

namespace Probe

theorem notes_send_cons (options : Options) (client : Client) (o : Occasion) (request : Request) :
    (send options client o request).notes =
      .probeStart request.target (maskPassword request.proxy) options.timeout.millis
        (correlation o.session) :: (send options client o request).notes.tail := by
  rfl

theorem tail_notes_send (a b : Options) (client : Client) (o : Occasion) (ra rb : Request)
    (answer : client ra = client rb) :
    (send a client o ra).notes.tail = (send b client o rb).notes.tail := by
  rw [send, send, answer]
  cases client rb <;> rfl

end Probe

theorem entries_of_ok (options : Options) (client : Client) (o : Occasion) (request : Request)
    (built : Request.ofOptions options = .ok request) :
    Trial.entries ⟨options, client, o⟩ = Probe.startEntry options o request ::
      ((Probe.send options client o request).notes.tail.zipIdx 1).map fun (note, i) =>
        note.entry o.session (o.clocks i).timestamp := by
  rw [Trial.entries, Trial.calls, Trial.result]
  simp only
  rw [Probe.run_of_ok options client o request built, Probe.notes_send_cons, List.zipIdx_cons,
    List.map_map]
  rfl

theorem message_startEntry_iff (u : Url) (h : Host) (hosted : u.host = some h) (written : u.Written)
    (scheme : u.scheme ∈ targetSchemes) (first second proxy : String) (options : Options)
    (o : Occasion) (wordA : IsWord first.toList) (wordB : IsWord second.toList) :
    (Probe.startEntry options o ⟨(u.withPassword first).text, proxy, options.timeout⟩).message =
        (Probe.startEntry options o ⟨(u.withPassword second).text, proxy, options.timeout⟩).message ↔
      first = second ∨ u.username ≠ "" := by
  obtain ⟨back, text⟩ := u.toList_text_withPassword h hosted
  rw [Probe.startEntry, Probe.startEntry, Note.entry, Note.entry]
  simp only
  rw [redact, redact, String.ofList_inj, message_probeStart _ _ _ _ _ _ _ (text first),
    message_probeStart _ _ _ _ _ _ _ (text second)]
  generalize back ++ (" via ".toList ++ (maskPassword proxy).toList) = rest
  by_cases named : u.username = ""
  · have front : "GET ".toList ++ urlFront u.scheme.toList u.username.toList =
        userlessFront u.scheme := by
      rw [named]
      rfl
    obtain ⟨out, stays⟩ := redactChars_userless u.scheme scheme rest
    rw [← List.append_assoc, ← List.append_assoc "GET ".toList, front, stays _ wordA, stays _ wordB,
      List.append_right_inj, List.append_left_inj, String.toList_inj]
    simp [named]
  · have leads := u.leads_of_written written scheme named
    obtain ⟨out, hides⟩ := redactChars_secret _ _ leads "GET ".toList rest
    rw [hides _ (isSecret_of_isWord _ wordA), hides _ (isSecret_of_isWord _ wordB)]
    simp [named]

theorem entries_of_refused (a b : Options) (before after first second : String) (u v : Url)
    (client : Client) (o : Occasion) (cause : AddressError)
    (alike : AlikeButTargetPassword a b before after first second u v)
    (refused : normalizeProxy a.proxy = .error cause) :
    Trial.entries ⟨a, client, o⟩ = Trial.entries ⟨b, client, o⟩ := by
  have builtA : Request.ofOptions a = .error cause := by
    rw [Request.ofOptions, alike.acceptedA, ProxyPair.ofAddress, refused]
    rfl
  have builtB : Request.ofOptions b = .error cause := by
    rw [Request.ofOptions, alike.acceptedB, ProxyPair.ofAddress, ← alike.proxy, refused]
    rfl
  rw [Trial.entries, Trial.entries, Trial.calls, Trial.calls, Trial.result, Trial.result]
  simp only
  rw [Probe.run_of_error a client o cause builtA, Probe.run_of_error b client o cause builtB]
  rfl

theorem entries_of_accepted (a b : Options) (before after first second : String) (u v : Url)
    (client : Client) (o : Occasion) (proxy : String)
    (alike : AlikeButTargetPassword a b before after first second u v)
    (accepted : normalizeProxy a.proxy = .ok proxy)
    (answers : ∀ ra rb, Request.ofOptions a = .ok ra → Request.ofOptions b = .ok rb →
      client ra = client rb) :
    ∃ rest,
      Trial.entries ⟨a, client, o⟩ = Probe.startEntry a o ⟨u.text, proxy, a.timeout⟩ :: rest ∧
        Trial.entries ⟨b, client, o⟩ = Probe.startEntry a o ⟨v.text, proxy, a.timeout⟩ :: rest := by
  have builtA := ofOptions_of_parts a u proxy alike.acceptedA accepted
  have builtB := ofOptions_of_parts b v proxy alike.acceptedB (alike.proxy ▸ accepted)
  have entriesA := entries_of_ok a client o _ builtA
  have entriesB := entries_of_ok b client o _ builtB
  rw [Probe.tail_notes_send a b client o _ _ (answers _ _ builtA builtB)] at entriesA
  rw [Probe.startEntry, ← alike.timeout] at entriesB
  rw [← alike.timeout] at entriesA
  exact ⟨_, entriesA, entriesB⟩

/-- The log of a probe tells the passwords of two targets apart wherever a request is made. Without
the target's field it does where the targets have no user name. -/
theorem probe_log_agrees_iff (m : Machine) (a b : Options) (before after first second : String)
    (u v : Url) (client : Client) (o : Occasion) (asked : asksForLog m.switch)
    (alike : AlikeButTargetPassword a b before after first second u v)
    (answers : ∀ ra rb, Request.ofOptions a = .ok ra → Request.ofOptions b = .ok rb →
      client ra = client rb) :
    (m.probe a client o).2.home = m.home.prepare.take (Trial.calls ⟨a, client, o⟩) ∧
      (m.probe b client o).2.home = m.home.prepare.take (Trial.calls ⟨b, client, o⟩) ∧
      (Trial.entries ⟨a, client, o⟩ = Trial.entries ⟨b, client, o⟩ ↔
        (∃ cause, normalizeProxy a.proxy = .error cause) ∨ first = second) ∧
      ((Trial.entries ⟨a, client, o⟩).map LogEntry.untargeted =
          (Trial.entries ⟨b, client, o⟩).map LogEntry.untargeted ↔
        (∃ cause, normalizeProxy a.proxy = .error cause) ∨ first = second ∨ u.username ≠ "") := by
  have left : (m.probe a client o).2 =
      { m with home := m.home.prepare.take (Trial.calls ⟨a, client, o⟩) } :=
    m.snd_probe ⟨a, client, o⟩ asked
  have right : (m.probe b client o).2 =
      { m with home := m.home.prepare.take (Trial.calls ⟨b, client, o⟩) } :=
    m.snd_probe ⟨b, client, o⟩ asked
  refine ⟨by rw [left], by rw [right], ?_⟩
  cases proxied : normalizeProxy a.proxy with
  | error cause =>
      have same := entries_of_refused a b before after first second u v client o cause alike proxied
      simp [same]
  | ok proxy =>
      obtain ⟨read, scheme⟩ := of_parseTarget a.target u alike.acceptedA
      obtain ⟨spelled, kind⟩ := spelled_of_targetScheme u.scheme scheme
      have written := Url.written_of_ofChars _ u read spelled kind
      obtain ⟨h, hosted, -⟩ := written.host
      have texts := u.text_withPassword_inj h hosted first second
      have messages := message_startEntry_iff u h hosted written scheme first second proxy a o
        alike.wordA alike.wordB
      have own : u.withPassword first = u := by rw [Url.withPassword, ← alike.secretA]
      rw [own, ← alike.alike] at texts messages
      obtain ⟨rest, entriesA, entriesB⟩ := entries_of_accepted a b before after first second u v client o
        proxy alike proxied answers
      rw [entriesA, entriesB, List.map_cons, List.map_cons, List.cons_eq_cons, List.cons_eq_cons]
      simp only [and_true, reduceCtorEq, exists_false, false_or]
      have whole := Probe.startEntry_inj a o ⟨u.text, proxy, a.timeout⟩ ⟨v.text, proxy, a.timeout⟩ rfl
      have masked := Probe.untargeted_startEntry_iff a o ⟨u.text, proxy, a.timeout⟩
        ⟨v.text, proxy, a.timeout⟩ rfl
      exact ⟨whole.trans texts, masked.trans messages⟩

theorem alike_nameless :
    AlikeButTargetPassword (visitOptions "http://:" "one") (visitOptions "http://:" "two") "http://:"
      "@ip.test/ip" "one" "two" { visitUrl "one" with username := "" }
      { visitUrl "two" with username := "" } := by
  constructor
  case proxy => rfl
  case timeout => rfl
  case targetA => rfl
  case targetB => rfl
  case wordA => exact ⟨nofun, of_mem (·.isAlphanum) "one".toList (by decide)⟩
  case wordB => exact ⟨nofun, of_mem (·.isAlphanum) "two".toList (by decide)⟩
  case acceptedA => exact eq_ok_of_toOption _ _ (by decide +kernel)
  case acceptedB => exact eq_ok_of_toOption _ _ (by decide +kernel)
  case secretA => rfl
  case secretB => rfl
  case alike => rfl

/-- Of a visitor with a name the field alone gives the password away, of one without also the message. -/
theorem probe_log_agrees_iff_visits :
    asksForLog (some "1") ∧
      Trial.entries ⟨visitOptions "http://bob:" "one", refused, namedOccasion⟩ ≠
        Trial.entries ⟨visitOptions "http://bob:" "two", refused, namedOccasion⟩ ∧
      (Trial.entries ⟨visitOptions "http://bob:" "one", refused, namedOccasion⟩).map
          LogEntry.untargeted =
        (Trial.entries ⟨visitOptions "http://bob:" "two", refused, namedOccasion⟩).map
          LogEntry.untargeted ∧
      (Trial.entries ⟨visitOptions "http://:" "one", refused, namedOccasion⟩).map
          LogEntry.untargeted ≠
        (Trial.entries ⟨visitOptions "http://:" "two", refused, namedOccasion⟩).map
          LogEntry.untargeted := by
  have asked : asksForLog (some "1") := by decide
  have named := alike_visits "http://bob:" (eq_ok_of_toOption _ _ (by decide +kernel))
    (eq_ok_of_toOption _ _ (by decide +kernel))
  have accepted : ¬∃ cause, normalizeProxy (visitOptions "http://bob:" "one").proxy = .error cause := by
    have proxied : normalizeProxy (visitOptions "http://bob:" "one").proxy =
        .ok "http://127.0.0.1:2334" := eq_ok_of_toOption _ _ (by decide +kernel)
    rintro ⟨cause, refused⟩
    rw [proxied] at refused
    cases refused
  have differ : "one" ≠ "two" := by decide
  have usual := probe_log_agrees_iff ⟨some "1", .missing⟩ _ _ _ _ _ _ _ _ refused namedOccasion asked
    named fun _ _ _ _ => rfl
  have bare := probe_log_agrees_iff ⟨some "1", .missing⟩ _ _ _ _ _ _ _ _ refused namedOccasion asked
    alike_nameless fun _ _ _ _ => rfl
  refine ⟨asked, fun same => ?_, usual.2.2.2.mpr (.inr (.inr (by decide))), fun same => ?_⟩
  · rcases usual.2.2.1.mp same with cause | equal
    · exact accepted cause
    · exact differ equal
  · rcases bare.2.2.2.mp same with cause | equal | name
    · exact accepted cause
    · exact differ equal
    · exact name rfl

end ProxyCheck
