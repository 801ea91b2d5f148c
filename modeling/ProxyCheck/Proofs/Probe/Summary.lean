import ProxyCheck.Probe.Report
import ProxyCheck.Proofs.Probe.Secrecy
import ProxyCheck.Proofs.Text.Digits
import ProxyCheck.Proofs.Text.Utf8
import ProxyCheck.Proofs.Url.Password

/-! When the summary of a probe is one line: of a body, the line breaks at its end are left out, and
every other text of others is shown with the line breaks that it has. -/
namespace ProxyCheck

def IsLine (text : String) : Prop :=
  ∀ c ∈ text.toList, isLineBreak c = false

instance (text : String) : Decidable (IsLine text) :=
  decidable_of_iff (text.toList.all fun c => !isLineBreak c) (by simp [IsLine])

theorem isLine_append_iff (front back : String) :
    IsLine (front ++ back) ↔ IsLine front ∧ IsLine back := by
  simp only [IsLine, String.toList_append, List.forall_mem_append]

theorem isLine_labelled_iff (label text : String) (line : IsLine label) :
    IsLine (label ++ text) ↔ IsLine text := by
  rw [isLine_append_iff, and_iff_right line]

theorem isLineBreak_of_visible (c : Char) (visible : isVisible c) : isLineBreak c = false := by
  by_contra breaks
  simp only [isLineBreak, Bool.not_eq_false, Bool.or_eq_true, beq_iff_eq] at breaks
  rcases breaks with rfl | rfl <;> cases visible

theorem isLine_toString (n : Nat) : IsLine (toString n) := by
  intro c member
  have digit := Host.of_isDigit c (isDigit_of_mem_toString n c member)
  exact isLineBreak_of_visible c (of_isHostChar c digit.1).1

def OnlyAtEnd {α : Type} (p : α → Bool) (xs : List α) : Prop :=
  ∃ front back, xs = front ++ back ∧ (∀ x ∈ front, p x = false) ∧ ∀ x ∈ back, p x

section OnlyAtEnd

variable {α : Type} (p : α → Bool)

theorem dropTrailing_clear_iff (xs : List α) :
    (∀ x ∈ dropTrailing p xs, p x = false) ↔ OnlyAtEnd p xs := by
  constructor
  · intro clear
    obtain ⟨dropped, whole, all⟩ := dropTrailing_append p xs
    exact ⟨_, dropped, whole, clear, all⟩
  · rintro ⟨front, back, rfl, clear, all⟩
    have gone : ∀ x ∈ back.reverse, p x := fun x member => all x (List.mem_reverse.mp member)
    have kept : dropTrailing p (front ++ back) = dropTrailing p front := by
      rw [dropTrailing, dropTrailing, List.reverse_append, List.dropWhile_append_of_pos gone]
    rw [kept, dropTrailing_eq_self p front clear]
    exact clear

theorem onlyAtEnd_of_clear (xs : List α) (clear : ∀ x ∈ xs, p x = false) : OnlyAtEnd p xs :=
  ⟨xs, [], xs.append_nil.symm, clear, nofun⟩

theorem onlyAtEnd_append_iff (front back : List α) (x : α) (clear : ∀ y ∈ front, p y = false)
    (first : p x) : OnlyAtEnd p (front ++ x :: back) ↔ ∀ y ∈ back, p y := by
  induction front with
  | nil =>
      constructor
      · rintro ⟨start, rest, whole, clear, all⟩
        cases start with
        | nil =>
            rw [← List.nil_append rest, ← whole] at all
            exact (List.forall_mem_cons.mp all).2
        | cons y start =>
            cases whole
            rw [clear x List.mem_cons_self] at first
            cases first
      · intro all
        exact ⟨[], x :: back, rfl, nofun, List.forall_mem_cons.mpr ⟨first, all⟩⟩
  | cons y front ih =>
      rw [← ih fun z member => clear z (List.mem_cons_of_mem y member)]
      have other := clear y List.mem_cons_self
      constructor
      · rintro ⟨start, rest, whole, clear, all⟩
        cases start with
        | nil =>
            rw [List.nil_append] at whole
            rw [all y (whole ▸ List.mem_cons_self)] at other
            cases other
        | cons z start =>
            obtain ⟨-, whole⟩ := List.cons.inj whole
            exact ⟨start, rest, whole, (List.forall_mem_cons.mp clear).2, all⟩
      · rintro ⟨start, rest, whole, clear, all⟩
        exact ⟨y :: start, rest, congrArg (y :: ·) whole, List.forall_mem_cons.mpr ⟨other, clear⟩, all⟩

end OnlyAtEnd

def isBreakByte (b : UInt8) : Bool :=
  b == 13 || b == 10

theorem ascii_of_isBreakByte (b : UInt8) (breaks : isBreakByte b) : b.toNat < 0x80 := by
  simp only [isBreakByte, Bool.or_eq_true, beq_iff_eq] at breaks
  rcases breaks with rfl | rfl <;> decide

theorem isLineBreak_iff (c : Char) :
    isLineBreak c ↔ c.toNat < 0x80 ∧ isBreakByte (UInt8.ofNat c.toNat) := by
  constructor
  · intro breaks
    simp only [isLineBreak, Bool.or_eq_true, beq_iff_eq] at breaks
    rcases breaks with rfl | rfl <;> decide
  · rintro ⟨ascii, breaks⟩
    revert breaks
    exact of_ascii (fun c => isBreakByte (UInt8.ofNat c.toNat) → isLineBreak c) (by decide) c ascii

theorem isLineBreak_ofNat (b : UInt8) (ascii : b.toNat < 0x80) :
    isLineBreak (Char.ofNat b.toNat) = isBreakByte b := by
  rw [Bool.eq_iff_iff, isLineBreak_iff, Utf8.toNat_ofNat_ascii b ascii, UInt8.ofNat_toNat]
  exact and_iff_right ascii

theorem clear_decodeLossy_iff (bytes : List UInt8) :
    (∀ c ∈ Utf8.decodeLossy bytes, isLineBreak c = false) ↔ ∀ b ∈ bytes, isBreakByte b = false := by
  constructor
  · intro clear b member
    by_contra breaks
    have breaks : isBreakByte b := by simpa using breaks
    have ascii := ascii_of_isBreakByte b breaks
    have none := clear _ ((Utf8.ofNat_mem_decodeLossy_iff b bytes ascii).mpr member)
    rw [isLineBreak_ofNat b ascii, breaks] at none
    cases none
  · intro clear c member
    by_contra breaks
    obtain ⟨ascii, breaks⟩ := (isLineBreak_iff c).mp (by simpa using breaks)
    rw [clear _ ((Utf8.mem_decodeLossy_iff c bytes ascii).mp member)] at breaks
    cases breaks

theorem breaks_decodeLossy_iff (bytes : List UInt8) :
    (∀ c ∈ Utf8.decodeLossy bytes, isLineBreak c) ↔ ∀ b ∈ bytes, isBreakByte b := by
  constructor
  · intro all b member
    have narrow : ∀ c ∈ Utf8.decodeLossy bytes, c.toNat < 0x80 := fun c shown =>
      ((isLineBreak_iff c).mp (all c shown)).1
    have ascii := Utf8.ascii_of_decodeLossy bytes narrow b member
    rw [← isLineBreak_ofNat b ascii]
    exact all _ ((Utf8.ofNat_mem_decodeLossy_iff b bytes ascii).mpr member)
  · intro all
    induction bytes with
    | nil => exact nofun
    | cons b bytes ih =>
        obtain ⟨first, rest⟩ := List.forall_mem_cons.mp all
        have ascii := ascii_of_isBreakByte b first
        have split := Utf8.decodeLossy_append_ascii [] bytes b ascii
        rw [List.nil_append] at split
        rw [split]
        refine List.forall_mem_cons.mpr ⟨?_, ih rest⟩
        rw [isLineBreak_ofNat b ascii]
        exact first

theorem onlyAtEnd_decodeLossy_iff (bytes : List UInt8) :
    OnlyAtEnd isLineBreak (Utf8.decodeLossy bytes) ↔ OnlyAtEnd isBreakByte bytes := by
  have whole := List.takeWhile_append_dropWhile (p := fun b => !isBreakByte b) (l := bytes)
  have clear : ∀ b ∈ bytes.takeWhile fun b => !isBreakByte b, isBreakByte b = false := by
    intro b member
    simpa using List.mem_takeWhile_imp member
  have stop := List.head?_dropWhile_not (fun b => !isBreakByte b) bytes
  -- The first line break parts the text as it parts the bytes.
  cases tail : bytes.dropWhile fun b => !isBreakByte b with
  | nil =>
      rw [tail, List.append_nil] at whole
      rw [whole] at clear
      exact iff_of_true (onlyAtEnd_of_clear _ _ ((clear_decodeLossy_iff bytes).mpr clear))
        (onlyAtEnd_of_clear _ _ clear)
  | cons b rest =>
      rw [tail] at whole stop
      have first : isBreakByte b := by simpa using stop
      have ascii := ascii_of_isBreakByte b first
      rw [← whole, Utf8.decodeLossy_append_ascii _ rest b ascii,
        onlyAtEnd_append_iff _ _ _ _ ((clear_decodeLossy_iff _).mpr clear)
          (by rwa [isLineBreak_ofNat b ascii]),
        onlyAtEnd_append_iff _ _ _ _ clear first]
      exact breaks_decodeLossy_iff rest

theorem isLine_bodyText_iff (body : List UInt8) :
    IsLine (bodyText body) ↔ OnlyAtEnd isBreakByte body := by
  rw [IsLine, bodyText, String.toList_ofList, dropTrailing_clear_iff, onlyAtEnd_decodeLossy_iff]

def AddressError.texts : AddressError → List String
  | .empty => []
  | .invalidProxy address _ => [address]
  | .unsupportedProxyScheme scheme => [scheme]
  | .missingHost address => [address]
  | .invalidTarget address _ => [address]
  | .unsupportedTargetScheme scheme => [scheme]

def ProbeError.texts : ProbeError → List String
  | .address cause => cause.texts
  | .timeout _ message | .connect message | .nameResolution message | .tls message | .body message
  | .clientSetup message | .request message => [message]

theorem isLine_quoting_iff (label text rest : String) (before : IsLine label) (after : IsLine rest) :
    IsLine (label ++ quoted text ++ rest) ↔ ∀ t ∈ [text], IsLine t := by
  have mark : IsLine "\x60" := by decide
  rw [isLine_append_iff, and_iff_left after, isLine_labelled_iff _ _ before, quoted,
    isLine_append_iff, and_iff_left mark, isLine_labelled_iff _ _ mark, List.forall_mem_singleton]

theorem UrlError.isLine_message (cause : UrlError) : IsLine cause.message := by
  cases cause <;> decide

theorem AddressError.isLine_message_iff (e : AddressError) :
    IsLine e.message ↔ ∀ text ∈ e.texts, IsLine text := by
  have because (cause : UrlError) : IsLine (": " ++ cause.message) :=
    (isLine_labelled_iff ": " cause.message (by decide)).mpr cause.isLine_message
  cases e with
  | empty =>
      have line : IsLine "proxy address is empty" := by decide
      exact iff_of_true line nofun
  | invalidProxy address cause =>
      have shown := isLine_quoting_iff "invalid proxy address " address _ (by decide) (because cause)
      rwa [← String.append_assoc] at shown
  | unsupportedProxyScheme scheme =>
      have shown := isLine_quoting_iff "unsupported proxy scheme " scheme "" (by decide) nofun
      rwa [String.append_empty] at shown
  | missingHost address => exact isLine_quoting_iff _ address _ (by decide) (by decide)
  | invalidTarget address cause =>
      have shown := isLine_quoting_iff "invalid target URL " address _ (by decide) (because cause)
      rwa [← String.append_assoc] at shown
  | unsupportedTargetScheme scheme => exact isLine_quoting_iff _ scheme _ (by decide) (by decide)

theorem ProbeError.isLine_message_iff (e : ProbeError) :
    IsLine e.message ↔ ∀ text ∈ e.texts, IsLine text := by
  have labelled (label text : String) (line : IsLine label) :
      IsLine (label ++ text) ↔ ∀ t ∈ [text], IsLine t :=
    (isLine_labelled_iff label text line).trans List.forall_mem_singleton.symm
  cases e with
  | address cause => exact cause.isLine_message_iff
  | timeout limit m =>
      refine labelled ("request timed out after " ++ toString limit.toNat ++ "ms: ") m ?_
      rw [isLine_append_iff, isLine_append_iff]
      exact ⟨⟨by decide, isLine_toString _⟩, by decide⟩
  | connect m => exact labelled _ m (by decide)
  | nameResolution m => exact labelled _ m (by decide)
  | tls m => exact labelled _ m (by decide)
  | body m => exact labelled _ m (by decide)
  | clientSetup m => exact labelled _ m (by decide)
  | request m => exact labelled _ m (by decide)

theorem Url.isLine_scheme (text : List Char) (u : Url) (read : ofChars text = .ok u) :
    IsLine u.scheme := by
  obtain ⟨spelled, -⟩ := splitScheme_of_ofChars text u read
  exact fun c member => isLineBreak_of_visible c (visible_scheme u.scheme spelled c member)

theorem isLine_summary_iff (outcome : Outcome) :
    IsLine outcome.summary ↔ match outcome with
      | .reachable body _ _ => IsLine body
      | .unavailable error _ => ∀ text ∈ error.texts, IsLine text := by
  cases outcome with
  | reachable body headers detail =>
      exact isLine_labelled_iff "proxy OK, returned value: " body (by decide)
  | unavailable error detail =>
      have labelled := isLine_labelled_iff "proxy unavailable: " error.message (by decide)
      exact labelled.trans error.isLine_message_iff

theorem of_parseTarget_error (address : String) (cause : AddressError)
    (refused : parseTarget address = .error cause) :
    (∃ reason, cause = .invalidTarget (maskAddress address) reason) ∨
      ∃ scheme, cause = .unsupportedTargetScheme scheme ∧ IsLine scheme := by
  rw [parseTarget] at refused
  split at refused
  · cases refused
    exact .inl ⟨_, rfl⟩
  · rename_i u read
    split at refused
    · cases refused
    · cases refused
      exact .inr ⟨u.scheme, rfl, Url.isLine_scheme _ u read⟩

theorem of_ofAddress_error (address : String) (cause : AddressError)
    (refused : Endpoint.ofAddress address = .error cause) :
    cause = .empty ∨ (∃ reason, cause = .invalidProxy (maskAddress (trimBlank address)) reason) ∨
      (∃ scheme, cause = .unsupportedProxyScheme scheme ∧ IsLine scheme) ∨
      cause = .missingHost (maskAddress (trimBlank address)) := by
  have answer := Endpoint.answer_ofAddress address
  rw [refused] at answer
  cases answer with
  | empty blank => exact .inl rfl
  | invalid reason read => exact .inr (.inl ⟨reason, rfl⟩)
  | unsupported u read other =>
      exact .inr (.inr (.inl ⟨u.scheme, rfl, Url.isLine_scheme _ u read⟩))
  | hostless u read known unnamed => exact .inr (.inr (.inr rfl))

theorem of_ofOptions_error (options : Options) (cause : AddressError)
    (refused : Request.ofOptions options = .error cause) :
    parseTarget options.target = .error cause ∨ Endpoint.ofAddress options.proxy = .error cause := by
  rw [Request.ofOptions, ProxyPair.ofAddress, normalizeProxy] at refused
  cases target : parseTarget options.target with
  | error reason =>
      rw [target] at refused
      cases refused
      exact .inl rfl
  | ok u =>
      cases proxy : Endpoint.ofAddress options.proxy with
      | error reason =>
          rw [target, proxy] at refused
          cases refused
          exact .inr rfl
      | ok e =>
          rw [target, proxy] at refused
          cases refused

/-- An address that is refused is shown with its password masked, or not but for its scheme. -/
theorem isLine_refusal_iff (options : Options) (cause : AddressError)
    (refused : Request.ofOptions options = .error cause) :
    (∀ text ∈ cause.texts, IsLine text) ↔ match cause with
      | .invalidTarget .. => IsLine (maskAddress options.target)
      | .invalidProxy .. | .missingHost _ => IsLine (maskAddress (trimBlank options.proxy))
      | .empty | .unsupportedProxyScheme _ | .unsupportedTargetScheme _ => True := by
  rcases of_ofOptions_error options cause refused with target | proxy
  · rcases of_parseTarget_error options.target cause target with ⟨reason, rfl⟩ | ⟨scheme, rfl, line⟩
    · exact List.forall_mem_singleton
    · exact iff_of_true (List.forall_mem_singleton.mpr line) trivial
  · rcases of_ofAddress_error options.proxy cause proxy with
      rfl | ⟨reason, rfl⟩ | ⟨scheme, rfl, line⟩ | rfl
    · exact iff_of_true nofun trivial
    · exact List.forall_mem_singleton
    · exact iff_of_true (List.forall_mem_singleton.mpr line) trivial
    · exact List.forall_mem_singleton

/-- When the summary of a probe is one line. A body may have line breaks at its end only; an address
that is refused, and what the client says of a failure, may have none. -/
theorem summary_isLine_iff (options : Options) (client : Client) (o : Occasion) :
    IsLine (Probe.run options client o).outcome.summary ↔
      match Request.ofOptions options with
      | .ok request =>
        match client request with
        | .ok response => OnlyAtEnd isBreakByte response.body
        | .error error => ∀ text ∈ error.texts, IsLine text
      | .error (.invalidTarget ..) => IsLine (maskAddress options.target)
      | .error (.invalidProxy ..) | .error (.missingHost _) =>
        IsLine (maskAddress (trimBlank options.proxy))
      | .error .empty | .error (.unsupportedProxyScheme _) | .error (.unsupportedTargetScheme _) =>
        True := by
  cases built : Request.ofOptions options with
  | ok request =>
      rw [Probe.run_of_ok options client o request built, Probe.send, isLine_summary_iff]
      simp only
      cases client request with
      | ok response => exact isLine_bodyText_iff response.body
      | error error => exact Iff.rfl
  | error cause =>
      have shown := isLine_refusal_iff options cause built
      rw [Probe.run_of_error options client o cause built, isLine_summary_iff]
      cases cause <;> exact shown

example : ¬IsLine (Probe.run {} (fun _ => .ok ⟨200, [97, 10, 98], .ofMillis 1, .ofPairs []⟩)
    namedOccasion).outcome.summary := by
  decide +kernel

end ProxyCheck
