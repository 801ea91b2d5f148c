import ProxyCheck.Http.Client
import ProxyCheck.Probe.Report
import ProxyCheck.Proofs.NameMap
import ProxyCheck.Proofs.Text.ByteOrder
import ProxyCheck.Proofs.Text.Pieces

/-! What is kept of the header fields of a response, and how a report lists it: of each name the last
value that can be read, and the names in the order of their bytes. -/
namespace ProxyCheck

namespace Http

open Utf8 (encode)

def Legible (value : List UInt8) : Prop :=
  ∀ b ∈ value, 0x20 ≤ b.toNat ∧ b.toNat ≤ 0x7E ∨ b.toNat = 0x09

instance (value : List UInt8) : Decidable (Legible value) :=
  inferInstanceAs (Decidable (∀ b ∈ value, 0x20 ≤ b.toNat ∧ b.toNat ≤ 0x7E ∨ b.toNat = 0x09))

/-- The last legible value that stands beside a name, in whatever case the name is written. -/
structure LastLegible (fields : List Field) (name : String) (value : List UInt8) : Prop where
  legible : Legible value
  last : ∃ before spelling after, fields = before ++ (spelling, value) :: after ∧
    lowerName spelling = name ∧ ∀ f ∈ after, lowerName f.1 = name → ¬Legible f.2

theorem all_isReadable_iff (value : List UInt8) : value.all isReadable ↔ Legible value := by
  rw [List.all_eq_true]
  refine forall₂_congr fun b _ => ?_
  simp only [isReadable, Bool.or_eq_true, Bool.and_eq_true, decide_eq_true_eq, beq_iff_eq,
    UInt8.le_iff_toNat_le, UInt8.lt_iff_toNat_lt, ← UInt8.toNat_inj, UInt8.reduceToNat]
  omega

theorem encode_legible (value : List UInt8) (legible : Legible value) :
    encode (value.map fun b => Char.ofNat b.toNat) = value := by
  induction value with
  | nil => rfl
  | cons b rest ih =>
      have ascii : b.toNat < 0x80 := by
        have bounds := legible b List.mem_cons_self
        omega
      have number := Utf8.toNat_ofNat_ascii b ascii
      have later := ih fun b member => legible b (List.mem_cons_of_mem _ member)
      rw [List.map_cons, encode, List.flatMap_cons, utf8EncodeChar_ascii _ (number.symm ▸ ascii), number,
        UInt8.ofNat_toNat, List.singleton_append]
      exact congrArg (b :: ·) later

theorem readable?_eq_some_iff (value : List UInt8) (text : String) :
    readable? value = some text ↔ Legible value ∧ encode text.toList = value := by
  rw [readable?]
  by_cases legible : Legible value
  · rw [if_pos ((all_isReadable_iff value).mpr legible), Option.some_inj, and_iff_right legible]
    have bytes := encode_legible value legible
    constructor
    · rintro rfl
      rw [String.toList_ofList, bytes]
    · intro same
      have decoded := congrArg Utf8.decodeLossy (bytes.trans same.symm)
      rw [Utf8.decodeLossy_encode, Utf8.decodeLossy_encode] at decoded
      rw [decoded, String.ofList_toList]
  · rw [if_neg fun all => legible ((all_isReadable_iff value).mp all)]
    exact iff_of_false nofun fun both => legible both.1

theorem readable?_eq_none_iff (value : List UInt8) : readable? value = none ↔ ¬Legible value := by
  rw [readable?, ← all_isReadable_iff]
  split <;> simp_all

theorem collect_snoc (fields : List Field) (f : Field) :
    collect (fields ++ [f]) = collectField (collect fields) f := by
  rw [collect, List.foldl_append]
  rfl

theorem not_lastLegible_nil (name : String) (value : List UInt8) : ¬LastLegible [] name value := by
  rintro ⟨-, before, spelling, after, split, -⟩
  simp at split

theorem lastLegible_snoc_iff (fields : List Field) (f : Field) (name : String) (value : List UInt8) :
    LastLegible (fields ++ [f]) name value ↔
      if lowerName f.1 = name ∧ Legible f.2 then f.2 = value else LastLegible fields name value := by
  split
  case isTrue counts =>
    constructor
    · rintro ⟨-, before, spelling, after, split, -, later⟩
      rcases List.eq_nil_or_concat after with rfl | ⟨rest, g, rfl⟩
      · rw [(List.append_singleton_inj.mp split).2]
      · rw [List.concat_eq_append, ← List.cons_append, ← List.append_assoc] at split
        have last : f ∈ rest.concat g := by
          rw [(List.append_singleton_inj.mp split).2]
          simp
        exact absurd counts.2 (later f last counts.1)
    · rintro rfl
      exact ⟨counts.2, fields, f.1, [], rfl, counts.1, nofun⟩
  case isFalse ignored =>
    constructor
    · rintro ⟨legible, before, spelling, after, split, named, later⟩
      rcases List.eq_nil_or_concat after with rfl | ⟨rest, g, rfl⟩
      · rw [(List.append_singleton_inj.mp split).2] at ignored
        exact absurd ⟨named, legible⟩ ignored
      · rw [List.concat_eq_append, ← List.cons_append, ← List.append_assoc] at split
        exact ⟨legible, before, spelling, rest, (List.append_singleton_inj.mp split).1, named,
          fun h member => later h (by simp [member])⟩
    · rintro ⟨legible, before, spelling, after, rfl, named, later⟩
      refine ⟨legible, before, spelling, after ++ [f], by simp, named, fun h member same => ?_⟩
      rcases List.mem_append.mp member with early | last
      · exact later h early same
      · rw [List.mem_singleton.mp last] at same ⊢
        exact fun readable => ignored ⟨same, readable⟩

theorem get?_collect_snoc (fields : List Field) (f : Field) (name : String) :
    (collect (fields ++ [f])).get? name =
      if lowerName f.1 = name ∧ Legible f.2 then readable? f.2 else (collect fields).get? name := by
  rw [collect_snoc, collectField]
  cases read : readable? f.2 with
  | none =>
      have illegible := (readable?_eq_none_iff f.2).mp read
      rw [if_neg fun counts => illegible counts.2]
  | some value =>
      obtain ⟨legible, -⟩ := (readable?_eq_some_iff f.2 value).mp read
      simp only [NameMap.get?_insert, legible, and_true, eq_comm]

theorem get?_collect_iff (fields : List Field) (name text : String) :
    (collect fields).get? name = some text ↔ LastLegible fields name (encode text.toList) := by
  induction fields using List.reverseRecOn with
  | nil => exact iff_of_false nofun (not_lastLegible_nil name _)
  | append_singleton fields f ih =>
      rw [get?_collect_snoc, lastLegible_snoc_iff]
      split
      case isTrue counts => rw [readable?_eq_some_iff, and_iff_right counts.2, eq_comm]
      case isFalse ignored => exact ih

theorem mem_names_collect_iff (fields : List Field) (name : String) :
    name ∈ (collect fields).names ↔ ∃ f ∈ fields, lowerName f.1 = name ∧ Legible f.2 := by
  rw [NameMap.mem_names_iff]
  induction fields using List.reverseRecOn with
  | nil => simp [collect, NameMap.get?, NamedPairs.find?]
  | append_singleton fields f ih =>
      have either : (∃ g ∈ fields ++ [f], lowerName g.1 = name ∧ Legible g.2) ↔
          (∃ g ∈ fields, lowerName g.1 = name ∧ Legible g.2) ∨
            lowerName f.1 = name ∧ Legible f.2 := by
        simp only [List.mem_append, List.mem_singleton, or_and_right, exists_or, exists_eq_left]
      rw [get?_collect_snoc, either]
      split
      case isTrue counts =>
        refine iff_of_true (Option.isSome_iff_ne_none.mpr fun missing => ?_) (.inr counts)
        exact (readable?_eq_none_iff f.2).mp missing counts.2
      case isFalse ignored => rw [ih, or_iff_left ignored]

theorem get?_collect_filter (fields : List Field) (name : String) :
    (collect (fields.filter fun f => lowerName f.1 = name)).get? name = (collect fields).get? name := by
  induction fields using List.reverseRecOn with
  | nil => rfl
  | append_singleton fields f ih =>
      rw [List.filter_append, get?_collect_snoc]
      by_cases here : lowerName f.1 = name
      · have kept : [f].filter (fun f => lowerName f.1 = name) = [f] := by simp [here]
        rw [kept, get?_collect_snoc, ih]
      · have dropped : [f].filter (fun f => lowerName f.1 = name) = [] := by simp [here]
        rw [dropped, List.append_nil, ih, if_neg fun counts => here counts.1]

theorem collect_regrouped (fields others : List Field)
    (same : ∀ name, (fields.filter fun f => lowerName f.1 = name) =
      others.filter fun f => lowerName f.1 = name) : collect fields = collect others := by
  apply NameMap.ext_get?
  intro name
  rw [← get?_collect_filter, same, get?_collect_filter]

end Http

theorem intercalate_append_lines (front lines : List String) (some : front ≠ []) :
    "\n".intercalate (front ++ lines) =
      "\n".intercalate front ++ String.join (lines.map fun line => "\n" ++ line) := by
  induction lines generalizing front with
  | nil => simp
  | cons line rest ih =>
      have first : "\n".intercalate (front ++ [line]) = "\n".intercalate front ++ ("\n" ++ line) := by
        rw [String.intercalate_append_of_ne_nil some (by simp), String.intercalate_singleton,
          String.append_assoc]
      rw [List.append_cons, ih _ (by simp), first, List.map_cons, String.join_cons, String.append_assoc]

theorem Outcome.report_reachable (body : String) (headers : NameMap String) (detail : Detail) :
    (Outcome.reachable body headers detail).report =
      (Outcome.reachable body {} detail).report ++
        String.join (headers.pairs.map fun h => "\n  " ++ h.1 ++ ": " ++ h.2) := by
  have lines : (Outcome.reachable body headers detail).reportLines =
      (Outcome.reachable body {} detail).reportLines ++ headers.pairs.map headerLine := by
    simp [reportLines, findings, Outcome.detail]
  have start (h : String × String) : "\n" ++ headerLine h = "\n  " ++ h.1 ++ ": " ++ h.2 := by
    rw [headerLine, ← String.append_assoc, ← String.append_assoc, ← String.append_assoc]
    rfl
  rw [report, lines, intercalate_append_lines _ _ (by simp [reportLines, circumstances]), List.map_map]
  simp only [Function.comp_def, start]
  rfl

namespace Http

open Utf8 (encode)

/-- Whatever fields a response has, each name that stands beside a legible value is kept in lower case,
with the last of them; and a report lists these names, each once, in the order of their bytes. -/
theorem fetch_headers (network : Network) (request : Request) (proxy target : Uri) (reply : Reply)
    (read : addresses request = .ok (proxy, target))
    (answered : send network proxy target request.timeout = .ok reply) :
    ∃ response, fetch network request = .ok response ∧
      (∀ name, name ∈ response.headers.names ↔
        ∃ f ∈ reply.fields, lowerName f.1 = name ∧ Legible f.2) ∧
      (∀ name text, response.headers.get? name = some text ↔
        LastLegible reply.fields name (encode text.toList)) ∧
      ∃ listing : List (String × String),
        (∀ name text, (name, text) ∈ listing ↔ LastLegible reply.fields name (encode text.toList)) ∧
        (listing.Pairwise fun p q => encode p.1.toList < encode q.1.toList) ∧
        ∀ detail, (Outcome.ofResponse response detail).report =
          (Outcome.ofResponse { response with headers := {} } detail).report ++
            String.join (listing.map fun h => "\n  " ++ h.1 ++ ": " ++ h.2) := by
  refine ⟨⟨reply.status, reply.body, reply.duration, collect reply.fields⟩, ?_,
    mem_names_collect_iff reply.fields, get?_collect_iff reply.fields, (collect reply.fields).pairs,
    ?_, ?_, ?_⟩
  · rw [fetch, read]
    simp only [bind, Except.bind, answered]
    rfl
  · intro name text
    rw [NameMap.mem_pairs_iff, get?_collect_iff]
  · exact (collect reply.fields).sorted.imp fun less => (Utf8.lt_iff_encode_lt _ _).mp less
  · intro detail
    exact Outcome.report_reachable _ _ _

/-- Two names in several spellings, the first with two texts and what is no text behind each of them,
the second with what is no text alone. -/
def spelledReply : Reply :=
  { status := 200
    fields := [("Via", [0x31]), ("SERVER", [0x61]), ("server", [0xE9]), ("X-Raw", [0x0A]),
      ("Server", [0x62, 0x20, 0x62]), ("server", [0x00])]
    body := []
    duration := .ofMillis 1 }

def plainProxy : Uri :=
  ⟨some "http".toList, some "127.0.0.1:8080".toList, ['/'], none⟩

def plainTarget : Uri :=
  ⟨some "http".toList, some "probe.invalid".toList, "/ip".toList, none⟩

def plainRequest : Request :=
  ⟨"http://probe.invalid/ip", "http://127.0.0.1:8080", .ofMillis 5000⟩

theorem fetch_headers_spelled :
    addresses plainRequest = .ok (plainProxy, plainTarget) ∧
      send (fun _ _ _ => .ok spelledReply) plainProxy plainTarget plainRequest.timeout =
        .ok spelledReply ∧
      ∃ response, fetch (fun _ _ _ => .ok spelledReply) plainRequest = .ok response ∧
        "x-raw" ∉ response.headers.names ∧ response.headers.get? "server" = some "b b" ∧
        ∃ listing : List (String × String), ("server", "b b") ∈ listing ∧ ("via", "1") ∈ listing ∧
          ∀ detail, (Outcome.ofResponse response detail).report =
            (Outcome.ofResponse { response with headers := {} } detail).report ++
              String.join (listing.map fun h => "\n  " ++ h.1 ++ ": " ++ h.2) := by
  have proxy : Uri.parse plainRequest.proxy = .ok plainProxy := by decide +kernel
  have target : Uri.parse plainRequest.target = .ok plainTarget := by decide +kernel
  have read : addresses plainRequest = .ok (plainProxy, plainTarget) := by
    rw [addresses, parseUri, parseUri, proxy, target]
    rfl
  have answered : send (fun _ _ _ => .ok spelledReply) plainProxy plainTarget plainRequest.timeout =
      .ok spelledReply := by
    have usable : isUsable plainTarget := by decide +kernel
    have known : schemeIn proxySchemes plainProxy := by decide +kernel
    rw [send, usable, known]
    rfl
  have server : LastLegible spelledReply.fields "server" (encode "b b".toList) :=
    ⟨by decide +kernel, spelledReply.fields.take 4, "Server", [("server", [0x00])], rfl, by decide,
      by decide⟩
  have via : LastLegible spelledReply.fields "via" (encode "1".toList) :=
    ⟨by decide +kernel, [], "Via", _, rfl, by decide, by decide⟩
  obtain ⟨response, fetched, names, values, listing, listed, -, report⟩ :=
    fetch_headers _ plainRequest plainProxy plainTarget spelledReply read answered
  refine ⟨read, answered, response, fetched, ?_, (values _ _).mpr server, listing,
    (listed _ _).mpr server, (listed _ _).mpr via, report⟩
  rw [names]
  decide

end Http

end ProxyCheck
