import ProxyCheck.Probe.Report
import ProxyCheck.Proofs.Masking
import ProxyCheck.Proofs.Probe.Secrecy
import ProxyCheck.Proofs.Url.Password

/-! When the password of a target stays out of sight. A target is masked as it is written and read as
a URL, and the two need not agree on where its authority is. -/
namespace ProxyCheck

open Url (IsWord PasswordAt clean isKept isLow)

def targetChars (address : String) : List Char :=
  clean (trimBoth isBlank address.toList)

theorem parse_trimBlank (address : String) :
    Url.parse (trimBlank address) = Url.ofChars (trimBoth isBlank address.toList) := by
  rw [Url.parse, trimBlank, String.toList_ofList]

theorem filter_ends_at (p : Char → Bool) (text front back : List Char) (c : Char)
    (left : text.filter p = front ++ c :: back) :
    ∃ start rest, text = start ++ c :: rest ∧ start.filter p = front ∧ rest.filter p = back := by
  obtain ⟨start, later, rfl, rfl, meets⟩ := List.filter_eq_append_iff.mp left
  obtain ⟨gap, rest, rfl, dropped, -, rfl⟩ := List.filter_eq_cons_iff.mp meets
  refine ⟨start ++ gap, rest, by simp, ?_, rfl⟩
  rw [List.filter_append, List.filter_eq_nil_iff.mpr dropped, List.append_nil]

theorem not_mem_of_filter_nil (p : Char → Bool) (text : List Char) (c : Char) (kept : p c)
    (empty : text.filter p = []) : c ∉ text := fun member =>
  List.filter_eq_nil_iff.mp empty c member kept

theorem targetChars_word (before after : String) :
    ∃ left right, (∀ word : String, IsWord word.toList →
        targetChars (before ++ word ++ after) = left ++ (word.toList ++ right)) ∧
      ∀ front back, left = front ++ [':'] → right = '@' :: back →
        Enclosed before.toList after.toList := by
  refine ⟨((before.toList.dropWhile isBlank).dropWhile isLow).filter isKept,
    (dropTrailing isLow (dropTrailing isBlank after.toList)).filter isKept, fun word isWord => ?_,
    fun front back left right => ?_⟩
  · have plain (c : Char) (member : c ∈ word.toList) :
        isBlank c = false ∧ isLow c = false ∧ isKept c := by
      have visible := (Url.of_isAlphanum c (isWord.plain c member)).1
      exact ⟨isBlank_of_visible c visible, Url.of_isVisible c visible⟩
    rw [targetChars, String.toList_append, String.toList_append, List.append_assoc,
      trimBoth_append isBlank _ _ _ isWord.nonempty fun c member => (plain c member).1, Url.clean_eq,
      trimBoth_append isLow _ _ _ isWord.nonempty fun c member => (plain c member).2.1]
    rw [List.filter_append, List.filter_append,
      List.filter_eq_self.mpr fun c member => (plain c member).2.2]
  · constructor
    case colon =>
      obtain ⟨start, gap, same, -, dropped⟩ := filter_ends_at isKept _ front [] ':' left
      obtain ⟨one, first⟩ := List.dropWhile_suffix isBlank (l := before.toList)
      obtain ⟨two, second⟩ := List.dropWhile_suffix isLow (l := before.toList.dropWhile isBlank)
      rw [← first, ← second, same]
      exact ⟨one ++ (two ++ start), gap, by simp, not_mem_of_filter_nil isKept gap '/' rfl dropped⟩
    case at_ =>
      obtain ⟨gap, rest, same, dropped, -⟩ := filter_ends_at isKept _ [] back '@' right
      obtain ⟨one, first, -⟩ := dropTrailing_append isBlank after.toList
      obtain ⟨two, second, -⟩ := dropTrailing_append isLow (dropTrailing isBlank after.toList)
      rw [first, second, same]
      exact ⟨gap, rest ++ (two ++ one), by simp, not_mem_of_filter_nil isKept gap '/' rfl dropped⟩

structure AlikeButTargetPassword (a b : Options) (before after first second : String) (u v : Url) :
    Prop where
  proxy : a.proxy = b.proxy
  timeout : a.timeout = b.timeout
  targetA : a.target = before ++ first ++ after
  targetB : b.target = before ++ second ++ after
  wordA : IsWord first.toList
  wordB : IsWord second.toList
  acceptedA : parseTarget a.target = .ok u
  acceptedB : parseTarget b.target = .ok v
  secretA : u.password = some first
  secretB : v.password = some second
  alike : v = u.withPassword second

theorem enclosed_of_alike (a b : Options) (before after first second : String) (u v : Url)
    (alike : AlikeButTargetPassword a b before after first second u v) (differ : first ≠ second) :
    Enclosed before.toList after.toList := by
  obtain ⟨left, right, words, enclosed⟩ := targetChars_word before after
  obtain ⟨readA, schemeA⟩ := of_parseTarget a.target u alike.acceptedA
  obtain ⟨readB, schemeB⟩ := of_parseTarget b.target v alike.acceptedB
  have kindA := (spelled_of_targetScheme u.scheme schemeA).2
  have kindB := (spelled_of_targetScheme v.scheme schemeB).2
  rw [parse_trimBlank] at readA readB
  obtain ⟨front, secret, back, found, -, encoded⟩ :=
    (Url.ofChars_password_iff _ u readA kindA first).mp alike.secretA
  rw [Url.encodeUserinfo_eq_word_iff secret first alike.wordA] at encoded
  have textA : clean (trimBoth isBlank a.target.toList) = left ++ (first.toList ++ right) := by
    rw [← words first alike.wordA, ← alike.targetA]
    rfl
  have textB : clean (trimBoth isBlank b.target.toList) = left ++ (second.toList ++ right) := by
    rw [← words second alike.wordB, ← alike.targetB]
    rfl
  rw [encoded, textA] at found
  rcases Url.passwordAt_exchange left first.toList second.toList right alike.wordA alike.wordB front
    back found with ⟨rfl, rfl⟩ | ⟨front', back', again⟩
  · obtain ⟨start, same⟩ := Url.colon_of_leadsToPassword left found.leads
    exact enclosed start back same rfl
  -- The second password would be found where the first one is.
  · have other := (Url.ofChars_password_iff _ v readB kindB first).mpr
      ⟨front', first.toList, back', textB ▸ again, alike.wordA.nonempty,
        (Url.encodeUserinfo_eq_word_iff _ first alike.wordA).mpr rfl⟩
    rw [alike.secretB] at other
    exact absurd (Option.some.inj other).symm differ

theorem maskAddress_agree_iff (a b : Options) (before after first second : String) (u v : Url)
    (alike : AlikeButTargetPassword a b before after first second u v) :
    maskAddress a.target = maskAddress b.target ↔
      first = second ∨ Covered before.toList after.toList := by
  have spelled (word : String) : maskAddress (before ++ word ++ after) =
      String.ofList (maskAddressChars (before.toList ++ (word.toList ++ after.toList))) := by
    simp [maskAddress]
  have plain (word : String) (isWord : IsWord word.toList) :
      ':' ∉ word.toList ∧ '/' ∉ word.toList :=
    ⟨isWord.not_mem _ ':' rfl, isWord.not_mem _ '/' rfl⟩
  by_cases same : first = second
  · simp [same, alike.targetA, alike.targetB]
  · rw [alike.targetA, alike.targetB, spelled, spelled, String.ofList_inj,
      maskAddressChars_agree_iff _ _ _ _ (enclosed_of_alike a b before after first second u v alike same)
        (plain first alike.wordA) (plain second alike.wordB), String.toList_inj]

namespace Probe

theorem target_run (options : Options) (client : Client) (o : Occasion) :
    (run options client o).outcome.detail.target = maskAddress options.target := by
  cases built : Request.ofOptions options with
  | error cause =>
      rw [run_of_error options client o cause built]
      rfl
  | ok request =>
      rw [run_of_ok options client o request built, send, finish]
      simp only
      cases client request with
      | ok response => rfl
      | error error => rfl

end Probe

/-- Two probes that differ only in the password of the target show the same exactly if the password
is one, or the mask covers its place. -/
theorem probe_target_agrees_iff (m : Machine) (a b : Options) (before after first second : String)
    (u v : Url) (client : Client) (o : Occasion)
    (alike : AlikeButTargetPassword a b before after first second u v)
    (answers : ∀ ra rb, Request.ofOptions a = .ok ra → Request.ofOptions b = .ok rb →
      client ra = client rb) :
    ((m.probe a client o).1.outcome.detail.target = (m.probe b client o).1.outcome.detail.target ∧
        (m.probe a client o).1.outcome.summary = (m.probe b client o).1.outcome.summary ∧
        (m.probe a client o).1.outcome.report = (m.probe b client o).1.outcome.report) ↔
      first = second ∨ Covered before.toList after.toList := by
  rw [← maskAddress_agree_iff a b before after first second u v alike, m.probe_fst, m.probe_fst,
    Probe.target_run, Probe.target_run]
  constructor
  · exact fun shown => shown.1
  · intro masked
    have outcome : (Probe.run a client o).outcome = (Probe.run b client o).outcome := by
      cases proxied : normalizeProxy a.proxy with
      | error cause =>
          have builtA : Request.ofOptions a = .error cause := by
            rw [Request.ofOptions, alike.acceptedA, ProxyPair.ofAddress, proxied]
            rfl
          have builtB : Request.ofOptions b = .error cause := by
            rw [Request.ofOptions, alike.acceptedB, ProxyPair.ofAddress, ← alike.proxy, proxied]
            rfl
          rw [Probe.run_of_error a client o cause builtA, Probe.run_of_error b client o cause builtB,
            Probe.detail, Probe.detail, masked]
      | ok proxy =>
          have builtA := ofOptions_of_parts a u proxy alike.acceptedA proxied
          have builtB := ofOptions_of_parts b v proxy alike.acceptedB (alike.proxy ▸ proxied)
          rw [Probe.run_of_ok a client o _ builtA, Probe.run_of_ok b client o _ builtB]
          exact Probe.outcome_send_congr a b client o ⟨u.text, proxy, a.timeout⟩
            ⟨v.text, proxy, b.timeout⟩ masked rfl (answers _ _ builtA builtB)
    rw [outcome]
    exact ⟨masked, rfl, rfl⟩

def visitOptions (before password : String) : Options :=
  { target := before ++ password ++ "@ip.test/ip" }

def visitUrl (password : String) : Url :=
  ⟨"http", "bob", some password, some (.domain "ip.test"), none, .segments ["ip"], none, none⟩

theorem alike_visits (before : String)
    (one : parseTarget (visitOptions before "one").target = .ok (visitUrl "one"))
    (two : parseTarget (visitOptions before "two").target = .ok (visitUrl "two")) :
    AlikeButTargetPassword (visitOptions before "one") (visitOptions before "two") before
      "@ip.test/ip" "one" "two" (visitUrl "one") (visitUrl "two") := by
  have words : ∀ word ∈ ["one", "two"], IsWord word.toList := by
    intro word member
    simp only [List.mem_cons, List.not_mem_nil, or_false] at member
    rcases member with rfl | rfl
    · exact ⟨nofun, of_mem (·.isAlphanum) "one".toList (by decide)⟩
    · exact ⟨nofun, of_mem (·.isAlphanum) "two".toList (by decide)⟩
  constructor
  case proxy => rfl
  case timeout => rfl
  case targetA => rfl
  case targetB => rfl
  case wordA => exact words "one" (by simp)
  case wordB => exact words "two" (by simp)
  case acceptedA => exact one
  case acceptedB => exact two
  case secretA => rfl
  case secretB => rfl
  case alike => rfl

/-- Written with two slashes, a target keeps its password; with one slash it does not. -/
theorem probe_target_agrees_iff_visits :
    AlikeButTargetPassword (visitOptions "http://bob:" "one") (visitOptions "http://bob:" "two")
        "http://bob:" "@ip.test/ip" "one" "two" (visitUrl "one") (visitUrl "two") ∧
      AlikeButTargetPassword (visitOptions "http:/bob:" "one") (visitOptions "http:/bob:" "two")
        "http:/bob:" "@ip.test/ip" "one" "two" (visitUrl "one") (visitUrl "two") ∧
      (Machine.probe ⟨none, .missing⟩ (visitOptions "http://bob:" "one") refused
          namedOccasion).1.outcome.report =
        (Machine.probe ⟨none, .missing⟩ (visitOptions "http://bob:" "two") refused
          namedOccasion).1.outcome.report ∧
      ¬((Machine.probe ⟨none, .missing⟩ (visitOptions "http:/bob:" "one") refused
            namedOccasion).1.outcome.detail.target =
          (Machine.probe ⟨none, .missing⟩ (visitOptions "http:/bob:" "two") refused
            namedOccasion).1.outcome.detail.target ∧
        (Machine.probe ⟨none, .missing⟩ (visitOptions "http:/bob:" "one") refused
            namedOccasion).1.outcome.summary =
          (Machine.probe ⟨none, .missing⟩ (visitOptions "http:/bob:" "two") refused
            namedOccasion).1.outcome.summary ∧
        (Machine.probe ⟨none, .missing⟩ (visitOptions "http:/bob:" "one") refused
            namedOccasion).1.outcome.report =
          (Machine.probe ⟨none, .missing⟩ (visitOptions "http:/bob:" "two") refused
            namedOccasion).1.outcome.report) := by
  have usual := alike_visits "http://bob:" (eq_ok_of_toOption _ _ (by decide +kernel))
    (eq_ok_of_toOption _ _ (by decide +kernel))
  have short := alike_visits "http:/bob:" (eq_ok_of_toOption _ _ (by decide +kernel))
    (eq_ok_of_toOption _ _ (by decide +kernel))
  have covered : Covered "http://bob:".toList "@ip.test/ip".toList := by
    have split : splitAtAuthority "http://bob:".toList = some ("http://".toList, "bob:".toList) := rfl
    rw [Covered, split]
    decide
  have uncovered : ¬Covered "http:/bob:".toList "@ip.test/ip".toList := by
    have split : splitAtAuthority "http:/bob:".toList = none := rfl
    rw [Covered, split]
    decide
  have hides := probe_target_agrees_iff ⟨none, .missing⟩ _ _ _ _ _ _ _ _ refused namedOccasion usual
    fun _ _ _ _ => rfl
  have shows := probe_target_agrees_iff ⟨none, .missing⟩ _ _ _ _ _ _ _ _ refused namedOccasion short
    fun _ _ _ _ => rfl
  refine ⟨usual, short, (hides.mpr (.inr covered)).2.2, fun same => ?_⟩
  rcases shows.mp same with equal | covered
  · exact absurd equal (by decide)
  · exact uncovered covered

end ProxyCheck
