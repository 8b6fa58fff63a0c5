import MarkupEditor.Proofs.Color.Hex
import MarkupEditor.Proofs.Session.Edits
import MarkupEditor.Proofs.Session.Reached

/-!
# What is refused

Whether a call is refused depends on its arguments, the number of characters and
the number of transactions open, and on nothing else.  A call that is refused has
not begun: text, runs, settings, transactions and observers are those before it.
Any other failure of a call comes from the reaction of an observer.
-/

namespace MarkupEditor

/-- Why a place given by its coordinates is refused: first for them, then for what is
asked of the span that they name. -/
def placeRefusal? (refusal? : Span → Option Failure) : List Int → Option Failure
  | [location, extent] =>
    if location < 0 ∨ extent < 0 then some (.invalidRange location extent)
    else refusal? ⟨location.toNat, extent.toNat⟩
  | coordinates => some (.coordinateCount coordinates.length)

/-- A text of some length refuses the spans that end behind it. -/
def rangeRefusal? (length : Nat) : List Int → Option Failure :=
  placeRefusal? fun span =>
    if span.stop ≤ length then none else some (.rangeOutOfBounds span.start span.stop length)

/-- No edit leaves a negative number of characters. -/
def recordRefusal? (delta : Int) : List Int → Option Failure :=
  placeRefusal? fun span =>
    if 0 ≤ span.length + delta then none
    else some (.invalidRange span.start (span.length + delta))

/-- Why a buffer refuses a call, given the number of its characters and of the
transactions open. -/
def Command.refusal? (length depth : Nat) : Command → Option Failure
  | .replace coordinates _ | .setAttributes coordinates _ | .delete coordinates
  | .addAttribute _ _ coordinates | .removeAttribute _ coordinates =>
    rangeRefusal? length coordinates
  | .insert offset _ => rangeRefusal? length [offset, 0]
  | .assignAttribute _ values =>
    if values.length = length then none else some (.valueCount length values.length)
  | .attributesAt offset =>
    if length = 0 ∨ (0 ≤ offset ∧ offset < length) then none
    else some (.offsetOutOfBounds offset length)
  | .recordEdit _ coordinates delta => recordRefusal? delta coordinates
  | .endEditing => if depth = 0 then some .unmatchedEnd else none
  | .setColor _ value => if value.isHexColor then none else some (.invalidColor value)
  | _ => none

/-- The commands that are one call of a buffer: a block is several, and a buffer is
neither restored nor pasted. -/
def Command.IsCall : Command → Prop
  | .editing _ | .restore _ | .paste _ => False
  | _ => True

/-- The commands that change single attributes. -/
def Command.Restyles : Command → Prop
  | .addAttribute _ _ _ | .removeAttribute _ _ | .assignAttribute _ _ => True
  | _ => False

/-! ### Places -/

/-- Coordinates are refused, or name a span of which more may be asked. -/
theorem placeRefusal?_cases (refusal? : Span → Option Failure) (coordinates : List Int) :
    (∃ failure, Span.ofCoordinates coordinates = .error failure ∧
        placeRefusal? refusal? coordinates = some failure) ∨
      ∃ span, Span.ofCoordinates coordinates = .ok span ∧
        placeRefusal? refusal? coordinates = refusal? span := by
  match coordinates with
  | [location, extent] =>
      by_cases hnegative : location < 0 ∨ extent < 0
      · exact .inl ⟨_, if_pos hnegative, if_pos hnegative⟩
      · exact .inr ⟨_, if_neg hnegative, if_neg hnegative⟩
  | [] | [_] | _ :: _ :: _ :: _ => exact .inl ⟨_, rfl, rfl⟩

theorem exists_span_of_accepted {refusal? : Span → Option Failure} {coordinates : List Int}
    (h : placeRefusal? refusal? coordinates = none) :
    ∃ span, Span.ofCoordinates coordinates = .ok span ∧ refusal? span = none := by
  obtain ⟨failure, -, hrefusal⟩ | ⟨span, hspan, hrefusal⟩ :=
    placeRefusal?_cases refusal? coordinates
  · cases hrefusal.symm.trans h
  · exact ⟨span, hspan, hrefusal.symm.trans h⟩

/-- What is to be done at a place is refused with the place. -/
theorem bind_ofCoordinates_of_refused {refusal? : Span → Option Failure} {coordinates : List Int}
    {failure : Failure} (h : placeRefusal? refusal? coordinates = some failure) {σ : Type}
    {state : σ} {next : Span → Attempt σ σ}
    (hnext : ∀ span, refusal? span = some failure → next span = .error ⟨failure, state⟩) :
    leaving state (Span.ofCoordinates coordinates) >>= next = .error ⟨failure, state⟩ := by
  obtain ⟨reason, hplace, hrefusal⟩ | ⟨span, hspan, hrefusal⟩ :=
    placeRefusal?_cases refusal? coordinates
  · cases hrefusal.symm.trans h
    rw [hplace]
    rfl
  · exact (leaving_bind_eq_of_eq_ok hspan next).trans (hnext span (hrefusal.symm.trans h))

theorem exists_span_of_rangeRefusal? {length : Nat} {coordinates : List Int}
    (h : rangeRefusal? length coordinates = none) :
    ∃ span, Span.ofCoordinates coordinates = .ok span ∧ span.stop ≤ length := by
  obtain ⟨span, hspan, haccepted⟩ := exists_span_of_accepted h
  refine ⟨span, hspan, ?_⟩
  by_contra hout
  cases (if_neg hout).symm.trans haccepted

theorem rangeRefusal?_end (length : Nat) : rangeRefusal? length [length, 0] = none := by
  simp [rangeRefusal?, placeRefusal?, Span.stop]

theorem bind_ofCoordinates_of_rangeRefusal? {length : Nat} {coordinates : List Int}
    {failure : Failure} (h : rangeRefusal? length coordinates = some failure) {σ : Type}
    {state : σ} {next : Span → Attempt σ σ}
    (hnext : ∀ span, ¬ span.stop ≤ length →
      next span = .error ⟨.rangeOutOfBounds span.start span.stop length, state⟩) :
    leaving state (Span.ofCoordinates coordinates) >>= next = .error ⟨failure, state⟩ := by
  apply bind_ofCoordinates_of_refused h
  intro span hrefusal
  split at hrefusal
  · cases hrefusal
  · next hout =>
    cases hrefusal
    exact hnext span hout

/-- An accepted edit has a place in the text. -/
theorem Command.exists_mutation_of_accepted {command : Command} (hedits : command.Edits)
    {length depth : Nat} (h : command.refusal? length depth = none) :
    ∃ mutation, command.mutation? length = some (.ok mutation) ∧ mutation.Fits length := by
  cases command with
  | replace coordinates fragment =>
      obtain ⟨span, hspan, hfits⟩ := exists_span_of_rangeRefusal? h
      exact ⟨.replaceCharacters span fragment, congrArg some (bind_eq_of_eq_ok hspan _), hfits⟩
  | setAttributes coordinates attributes =>
      obtain ⟨span, hspan, hfits⟩ := exists_span_of_rangeRefusal? h
      exact ⟨.setAttributes span attributes, congrArg some (bind_eq_of_eq_ok hspan _), hfits⟩
  | delete coordinates =>
      obtain ⟨span, hspan, hfits⟩ := exists_span_of_rangeRefusal? h
      exact ⟨.replaceCharacters span (.plain []), congrArg some (bind_eq_of_eq_ok hspan _), hfits⟩
  | insert offset fragment =>
      have hrange : rangeRefusal? length [offset, 0] = none := h
      obtain ⟨span, hspan, hfits⟩ := exists_span_of_rangeRefusal? hrange
      have hplace : Span.ofInts offset 0 = .ok span := hspan
      exact ⟨.replaceCharacters span fragment, congrArg some (bind_eq_of_eq_ok hplace _), hfits⟩
  | append fragment => exact ⟨_, rfl, Nat.le_refl length⟩
  | setText fragment => exact ⟨_, rfl, Nat.le_of_eq (Nat.zero_add length)⟩
  | recolorize => exact ⟨_, rfl, trivial⟩
  | _ => exact hedits.elim

theorem Command.depth_ne_zero_of_accepted {length depth : Nat}
    (h : Command.endEditing.refusal? length depth = none) : depth ≠ 0 := by
  intro hclosed
  cases (if_pos hclosed).symm.trans h

theorem Command.exists_color_of_accepted {layer : Layer} {value : Value} {length depth : Nat}
    (h : (Command.setColor layer value).refusal? length depth = none) :
    ∃ color, Color.ofValue value = .ok color := by
  cases hhex : value.isHexColor with
  | false =>
      rw [Command.refusal?, hhex] at h
      cases h
  | true => exact Color.exists_ofValue hhex

namespace Buffer

variable {buffer : Buffer}

/-- A span of the text is one of the runs as well. -/
theorem Consistent.modifyWithin_eq_error (h : buffer.Consistent) {span : Span}
    (hspan : ¬ span.stop ≤ buffer.length) (change : List Run → List Run) :
    buffer.runs.modifyWithin span change =
      .error ⟨.rangeOutOfBounds span.start span.stop buffer.length, buffer.runs⟩ := by
  rw [RunList.modifyWithin, h.length, within_eq_error hspan]
  rfl

theorem Consistent.addAttribute_eq_error (h : buffer.Consistent) {span : Span}
    (hspan : ¬ span.stop ≤ buffer.length) (name : String) (value : Value) :
    buffer.addAttribute name value span =
      .error ⟨.rangeOutOfBounds span.start span.stop buffer.length, buffer⟩ := by
  rw [addAttribute, RunList.addAttribute, h.modifyWithin_eq_error hspan]
  rfl

theorem Consistent.removeAttribute_eq_error (h : buffer.Consistent) {span : Span}
    (hspan : ¬ span.stop ≤ buffer.length) (name : String) :
    buffer.removeAttribute name span =
      .error ⟨.rangeOutOfBounds span.start span.stop buffer.length, buffer⟩ := by
  rw [removeAttribute, RunList.removeAttribute, h.modifyWithin_eq_error hspan]
  rfl

theorem Consistent.assignAttribute_eq_error (h : buffer.Consistent) (name : String)
    {values : List (Option Value)} (hvalues : ¬ values.length = buffer.length) :
    buffer.assignAttribute name values =
      .error ⟨.valueCount buffer.length values.length, buffer⟩ := by
  have hcount : ¬ (values.length : Int) = buffer.runs.length := by
    rw [h.length]
    exact fun heq => hvalues (Int.ofNat_inj.1 heq)
  rw [assignAttribute, RunList.assignAttribute, if_neg hcount, h.length]
  rfl

/-- There is no styling outside of a text that is not empty. -/
theorem Consistent.attributesAt_eq_error (h : buffer.Consistent) {offset : Int}
    (hplace : ¬ (buffer.length = 0 ∨ (0 ≤ offset ∧ offset < buffer.length))) :
    buffer.attributesAt offset = .error (.offsetOutOfBounds offset buffer.length) := by
  have htext : ¬ buffer.text.isEmpty = true := fun hempty =>
    hplace (.inl (congrArg List.length (List.isEmpty_iff.1 hempty)))
  have hout : offset < 0 ∨ buffer.runs.length ≤ offset := by
    rw [h.length]
    omega
  rw [attributesAt, if_neg htext, RunList.attributesAt, if_pos hout, h.length]

theorem recordEdit_eq_error {mask : Nat} {span : Span} {delta : Int}
    (h : span.length + delta < 0) :
    buffer.recordEdit mask span delta =
      .error ⟨.invalidRange span.start (span.length + delta), buffer⟩ := by
  rw [recordEdit, Pending.record, Span.ofInts, if_pos (.inr h)]
  rfl

/-- Where there is a character, or no text at all, the styling can be asked for. -/
theorem Consistent.exists_attributesAt_of_accepted (h : buffer.Consistent) {offset : Int}
    {depth : Nat} (haccepted : (Command.attributesAt offset).refusal? buffer.length depth = none) :
    ∃ styling, buffer.attributesAt offset = .ok styling := by
  by_cases hplace : buffer.length = 0 ∨ (0 ≤ offset ∧ offset < buffer.length)
  · obtain hempty | ⟨hnonneg, hlt⟩ := hplace
    · refine ⟨_, if_pos ?_⟩
      rw [List.length_eq_zero_iff.1 hempty]
      rfl
    · obtain ⟨offset, rfl⟩ := Int.eq_ofNat_of_zero_le hnonneg
      obtain ⟨attributes, span, hfound, -⟩ := h.exists_attributesAt (Int.ofNat_lt.1 hlt)
      exact ⟨_, hfound⟩
  · cases (if_neg hplace).symm.trans haccepted

end Buffer

namespace Session

variable {react : React} {session : Session} {command : Command}

theorem execute_eq_of_refused (h : session.buffer.Consistent) (hcall : command.IsCall)
    {failure : Failure}
    (hrefusal : command.refusal? session.buffer.length session.buffer.depth = some failure) :
    execute react command session = ⟨session, [], .error failure⟩ := by
  have hedit {coordinates : List Int} {edit : Span → Attempt Edited Edited}
      (hrange : rangeRefusal? session.buffer.length coordinates = some failure)
      (hout : ∀ span, ¬ span.stop ≤ session.buffer.length →
        edit span = .error ⟨.rangeOutOfBounds span.start span.stop session.buffer.length,
          session.buffer.untouched⟩) :
      Outcome.ofEdit react session
          (leaving session.buffer.untouched (Span.ofCoordinates coordinates) >>= edit) =
        ⟨session, [], .error failure⟩ :=
    congrArg (Outcome.ofEdit react session) (bind_ofCoordinates_of_rangeRefusal? hrange hout)
  have hchange {coordinates : List Int} {change : Span → Attempt Buffer Buffer}
      (hrange : rangeRefusal? session.buffer.length coordinates = some failure)
      (hout : ∀ span, ¬ span.stop ≤ session.buffer.length →
        change span = .error ⟨.rangeOutOfBounds span.start span.stop session.buffer.length,
          session.buffer⟩) :
      Outcome.ofChange session
          (leaving session.buffer (Span.ofCoordinates coordinates) >>= change) =
        ⟨session, [], .error failure⟩ :=
    congrArg (Outcome.ofChange session) (bind_ofCoordinates_of_rangeRefusal? hrange hout)
  cases command with
  | replace coordinates fragment =>
      exact hedit hrefusal fun span hspan => Buffer.replaceCharacters_eq_error hspan fragment
  | insert offset fragment =>
      have hrange : rangeRefusal? session.buffer.length [offset, 0] = some failure := hrefusal
      exact hedit hrange fun span hspan => Buffer.replaceCharacters_eq_error hspan fragment
  | delete coordinates =>
      exact hedit hrefusal fun span hspan => Buffer.replaceCharacters_eq_error hspan _
  | setAttributes coordinates attributes =>
      exact hedit hrefusal fun span hspan => Buffer.setAttributes_eq_error hspan attributes
  | addAttribute name value coordinates =>
      exact hchange hrefusal fun span hspan => h.addAttribute_eq_error hspan name value
  | removeAttribute name coordinates =>
      exact hchange hrefusal fun span hspan => h.removeAttribute_eq_error hspan name
  | assignAttribute name values =>
      by_cases hvalues : values.length = session.buffer.length
      · cases (if_pos hvalues).symm.trans hrefusal
      · cases (if_neg hvalues).symm.trans hrefusal
        exact congrArg (Outcome.ofChange session) (h.assignAttribute_eq_error name hvalues)
  | attributesAt offset =>
      by_cases hplace : session.buffer.length = 0 ∨ (0 ≤ offset ∧ offset < session.buffer.length)
      · cases (if_pos hplace).symm.trans hrefusal
      · cases (if_neg hplace).symm.trans hrefusal
        rw [execute, h.attributesAt_eq_error hplace]
        rfl
  | recordEdit mask coordinates delta =>
      have hrecord : recordRefusal? delta coordinates = some failure := hrefusal
      refine congrArg (Outcome.ofChange session) (bind_ofCoordinates_of_refused hrecord ?_)
      intro span hspan
      split at hspan
      · cases hspan
      · next hnegative =>
        cases hspan
        exact Buffer.recordEdit_eq_error (Int.not_le.1 hnegative)
  | endEditing =>
      by_cases hdepth : session.buffer.depth = 0
      · cases (if_pos hdepth).symm.trans hrefusal
        rw [execute, Buffer.endEditing, hdepth]
        rfl
      · cases (if_neg hdepth).symm.trans hrefusal
  | setColor layer value =>
      cases hcolor : value.isHexColor with
      | true =>
          rw [Command.refusal?, hcolor] at hrefusal
          cases hrefusal
      | false =>
          rw [Command.refusal?, hcolor] at hrefusal
          cases hrefusal
          rw [execute, Buffer.setColor, Color.ofValue_eq_error hcolor]
          rfl
  | editing | restore | paste => exact hcall.elim
  | _ => cases hrefusal

/-! ### What is accepted -/

/-- Single attributes are changed without a transaction. -/
theorem exists_execute_restyled (react : React) (h : session.buffer.Consistent)
    (hrestyles : command.Restyles)
    (haccepted : command.refusal? session.buffer.length session.buffer.depth = none) :
    ∃ runs, execute react command session =
      ⟨{ session with buffer := { session.buffer with runs := runs } }, [], .ok .done⟩ := by
  have hchange {change : Attempt RunList RunList} {runs : RunList} (hok : change = .ok runs) :
      Outcome.ofChange session (session.buffer.restyle change) =
        ⟨{ session with buffer := { session.buffer with runs := runs } }, [], .ok .done⟩ := by
    rw [hok]
    rfl
  have hspan {coordinates : List Int}
      (hrange : rangeRefusal? session.buffer.length coordinates = none) :
      ∃ span, Span.ofCoordinates coordinates = .ok span ∧
        (span.stop : Int) ≤ session.buffer.runs.length := by
    obtain ⟨span, hspan, hfits⟩ := exists_span_of_rangeRefusal? hrange
    exact ⟨span, hspan, h.fits hfits⟩
  cases command with
  | addAttribute name value coordinates =>
      obtain ⟨span, hspan, hfits⟩ := hspan haccepted
      have hoperation : (RunList.Operation.addAttribute name value span).Fits
          session.buffer.runs.length := hfits
      obtain ⟨runs, hruns, -⟩ := RunList.represents_apply h.canonical hoperation
      refine ⟨runs, ?_⟩
      rw [execute, leaving_bind_eq_of_eq_ok hspan]
      exact hchange hruns
  | removeAttribute name coordinates =>
      obtain ⟨span, hspan, hfits⟩ := hspan haccepted
      have hoperation : (RunList.Operation.removeAttribute name span).Fits
          session.buffer.runs.length := hfits
      obtain ⟨runs, hruns, -⟩ := RunList.represents_apply h.canonical hoperation
      refine ⟨runs, ?_⟩
      rw [execute, leaving_bind_eq_of_eq_ok hspan]
      exact hchange hruns
  | assignAttribute name values =>
      have hvalues : values.length = session.buffer.length := by
        by_contra hcount
        cases (if_neg hcount).symm.trans haccepted
      have hoperation : (RunList.Operation.assignAttribute name values).Fits
          session.buffer.runs.length := by
        rw [h.length]
        exact congrArg Nat.cast hvalues
      obtain ⟨runs, hruns, -⟩ := RunList.represents_apply h.canonical hoperation
      exact ⟨runs, hchange hruns⟩
  | _ => exact hrestyles.elim

theorem failure?_ofSettled (settled : Session × Option Failure) :
    (Outcome.ofSettled settled).failure? = settled.2 := by
  obtain ⟨settled, failure⟩ := settled
  cases failure <;> rfl

/-- A notification fails with a reaction only. -/
theorem exists_reaction_of_deliver {event : Event} {failure : Failure} {observers : List Observer}
    (h : (deliver react event observers session).2 = some failure) :
    ∃ body reached, (react body reached).2 = some failure := by
  induction observers generalizing session with
  | nil => cases h
  | cons observer rest ih =>
      rw [deliver] at h
      split at h
      · exact ih h
      · next body used htaken =>
        split at h
        · exact ih h
        · next reacted reason hreacted =>
          refine ⟨body, used, ?_⟩
          rw [hreacted]
          exact h

/-- Where the buffer has accepted an edit, only a reaction can fail. -/
theorem exists_reaction_of_settle {buffer : Buffer} {notice : Option Notice} {failure : Failure}
    (h : (session.settle react (.ok (buffer, notice))).2 = some failure) :
    ∃ body reached, (react body reached).2 = some failure := by
  cases notice with
  | none => cases h
  | some notice => exact exists_reaction_of_deliver h

theorem exists_reaction_of_accepted (h : session.buffer.Consistent) (hcall : command.IsCall)
    (haccepted : command.refusal? session.buffer.length session.buffer.depth = none)
    {failure : Failure} (hfailed : (execute react command session).failure? = some failure) :
    ∃ body reached, (react body reached).2 = some failure := by
  have hedit {edit : Attempt Edited Edited} {buffer : Buffer} {notice : Option Notice}
      (hok : edit = .ok (buffer, notice))
      (hexecute : execute react command session = .ofEdit react session edit) :
      ∃ body reached, (react body reached).2 = some failure := by
    rw [hexecute, hok, Outcome.ofEdit, failure?_ofSettled] at hfailed
    exact exists_reaction_of_settle hfailed
  have hmutation (hedits : command.Edits) :
      ∃ body reached, (react body reached).2 = some failure := by
    obtain ⟨mutation, hmutation, hfits⟩ := Command.exists_mutation_of_accepted hedits haccepted
    obtain ⟨edited, hedited, hexecute⟩ := exists_execute_settled react h hmutation hfits
    have hopen : edited.depth ≠ 0 := by
      rw [hedited.frame]
      exact Nat.succ_ne_zero _
    obtain ⟨after, notice, hend⟩ := Buffer.exists_endEditing hedited.consistent hopen
    exact hedit hend hexecute
  have hrestyle (hrestyles : command.Restyles) :
      ∃ body reached, (react body reached).2 = some failure := by
    obtain ⟨runs, hexecute⟩ := exists_execute_restyled react h hrestyles haccepted
    rw [hexecute] at hfailed
    cases hfailed
  have hpass (reply : Nat → Reply) : (Outcome.ofPass session reply).failure? = none := by
    obtain ⟨colored, hpass, -⟩ := Buffer.exists_colorize h
    rw [Outcome.ofPass, hpass]
    rfl
  cases command with
  | replace | setAttributes | delete | insert | append | setText | recolorize =>
      exact hmutation trivial
  | addAttribute | removeAttribute | assignAttribute => exact hrestyle trivial
  | attributesAt offset =>
      obtain ⟨styling, hstyling⟩ := h.exists_attributesAt_of_accepted haccepted
      rw [execute, hstyling] at hfailed
      cases hfailed
  | endEditing =>
      obtain ⟨after, notice, hend⟩ :=
        Buffer.exists_endEditing h (Command.depth_ne_zero_of_accepted haccepted)
      exact hedit hend rfl
  | recordEdit mask coordinates delta =>
      have hrecord : recordRefusal? delta coordinates = none := haccepted
      obtain ⟨span, hspan, hlength⟩ := exists_span_of_accepted hrecord
      have hcount : 0 ≤ span.length + delta := by
        by_contra hnegative
        cases (if_neg hnegative).symm.trans hlength
      obtain ⟨recorded, hrecorded, -⟩ := session.buffer.exists_recordEdit mask span delta hcount
      rw [execute, leaving_bind_eq_of_eq_ok hspan, hrecorded] at hfailed
      cases hfailed
  | process | colorize => cases (hpass _).symm.trans hfailed
  | setColor layer value =>
      obtain ⟨color, hcolor⟩ := Command.exists_color_of_accepted haccepted
      rw [execute, Buffer.setColor, hcolor] at hfailed
      cases hfailed
  | editing | restore | paste => exact hcall.elim
  | length | beginEditing | palette | setFont | exportAs | observe | unobserve => cases hfailed

/-- In every state that a call can find, a call that the buffer refuses leaves the whole
session as it is, with nothing begun, passed over or reported; and where the buffer
accepts a call, it fails with a reaction of an observer at most.  An empty range is
accepted as far as the end of the text. -/
theorem atomic_of_reached (font : Value) (roles : Roles) {session : Session}
    (h : Reached (new (Buffer.new font roles)) session) {command : Command}
    (hcall : command.IsCall) (react : React) :
    (∀ failure,
        command.refusal? session.buffer.length session.buffer.depth = some failure →
          execute react command session = ⟨session, [], .error failure⟩) ∧
      (command.refusal? session.buffer.length session.buffer.depth = none →
        ∀ failure, (execute react command session).failure? = some failure →
          ∃ body reached, (react body reached).2 = some failure) ∧
      rangeRefusal? session.buffer.length [session.buffer.length, 0] = none := by
  have hconsistent : session.buffer.Consistent :=
    keptByBuffers_consistent.reached h (Buffer.consistent_new font roles)
  refine ⟨?_, ?_, rangeRefusal?_end _⟩
  · intro failure hrefusal
    exact execute_eq_of_refused hconsistent hcall hrefusal
  · intro haccepted failure hfailed
    exact exists_reaction_of_accepted hconsistent hcall haccepted hfailed

/-- A session in the middle of a transaction. -/
def halfEdited : Session :=
  (new (Buffer.new hiddenFont .standard)).runAll [.beginEditing, .setText (.plain "ab".toList)]

theorem atomic_of_reached_halfEdited :
    halfEdited.buffer.pending.mask = 3 ∧
      execute (reactWithin 0) (.delete [1, 2]) halfEdited =
        ⟨halfEdited, [], .error (.rangeOutOfBounds 1 3 2)⟩ := by
  have hreached : Reached (new (Buffer.new hiddenFont .standard)) halfEdited :=
    reached_runAll .start _
  have hlength : halfEdited.buffer.length = 2 := by decide +kernel
  have hrefusal : (Command.delete [1, 2]).refusal? halfEdited.buffer.length
      halfEdited.buffer.depth = some (.rangeOutOfBounds 1 3 2) := by
    rw [hlength]
    rfl
  have hcall : (Command.delete [1, 2]).IsCall := trivial
  refine ⟨by decide +kernel, ?_⟩
  exact (atomic_of_reached hiddenFont .standard hreached hcall _).1 _ hrefusal

end Session

end MarkupEditor
