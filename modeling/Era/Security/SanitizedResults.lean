import Era.Security.ResultSafety
import Era.Security.SecretPatterns

/-!
# What sanitised results hold

A sanitised result may hold matches of the credential patterns: keys are never redacted, a
pass may set free a match of a pattern whose pass is over, and the mark of a cut summary may
complete one.  What is left of the values stands at a mark, values under secret keys are
marks, the encoding is bounded, and a result without matches is sanitised to itself.
-/

namespace Era.Security

open Era.Core Era.Lib.Pattern

/-- A platform whose `redact_sensitive_text` masks the patterns. -/
def maskingPlatform (platform : Platform) (tables : CharTables) : Platform :=
  { platform with redactSensitiveText := redactSensitiveText tables }

/-! ## Results as a provider would return them -/

def provided : Value → ProviderValue
  | .none => .none
  | .bool value => .bool value
  | .int value => .int value
  | .float value => .float value
  | .str value => .str value
  | .list items => .list (providedItems items)
  | .dict fields => .dict (providedFields fields)
where
  providedItems : List Value → List ProviderValue
    | [] => []
    | item :: rest => provided item :: providedItems rest
  providedFields : Params → List (Option String × ProviderValue)
    | [] => []
    | (key, item) :: rest => (some key, provided item) :: providedFields rest

def providedResult (result : ActionResult) : ProviderReturn :=
  .actionResult result.success result.summary (provided.providedFields result.data)

/-- The keys of all dictionaries in a value that are strings. -/
def providedKeys : ProviderValue → List String
  | .list items => itemKeys items
  | .dict fields => fieldKeys fields
  | _ => []
where
  itemKeys : List ProviderValue → List String
    | [] => []
    | item :: rest => providedKeys item ++ itemKeys rest
  fieldKeys : List (Option String × ProviderValue) → List String
    | [] => []
    | (key, item) :: rest => key.toList ++ (providedKeys item ++ fieldKeys rest)

theorem length_providedItems (items : List Value) :
    (provided.providedItems items).length = items.length := by
  induction items with
  | nil => rfl
  | cons item rest ih => exact congrArg (· + 1) ih

theorem length_providedFields (fields : Params) :
    (provided.providedFields fields).length = fields.length := by
  induction fields with
  | nil => rfl
  | cons field rest ih => exact congrArg (· + 1) ih

/-! ## Values -/

/-- No pattern has a match in a text. -/
def Unsecret (tables : CharTables) (text : String) : Prop :=
  ∀ pattern : SecretPattern, (pattern.regex tables).Unmatched text.toList

/-- Whatever matches in a text is left at a mark. -/
def OnlyLeaves (tables : CharTables) (text : String) : Prop :=
  ∀ (pattern : SecretPattern) (before word after : List Char),
    text.toList = before ++ (word ++ after) → (pattern.regex tables).Matches before word →
      pattern.Leaves before word

variable {platform : Platform} {tables : CharTables}

theorem unsecret_redacted : Unsecret tables redacted := by
  intro pattern before word after equal matched
  have nonempty : word ++ after ≠ [] := by
    intro empty
    exact matched.2.ne_nil (List.append_eq_nil_iff.mp empty).1
  have leaves : after ∈ (pattern.regex tables).leaves (word ++ after ++ []) :=
    TextPattern.mem_leaves.mpr ⟨word, List.append_nil _, matched.2⟩
  rw [SecretPattern.avoids tables pattern before (word ++ after) equal nonempty []] at leaves
  cases leaves

theorem redactSensitiveText_of_unsecret {text : String} (unsecret : Unsecret tables text) :
    redactSensitiveText tables text = text := redactSensitiveText_of_unmatched unsecret

/-- What sanitising makes of values with these strings and keys, where `repeats` says that it
makes the same of the outcome. -/
structure Sanitized (tables : CharTables) (strings keys originals : List String) (marked : Bool)
    (repeats : Prop) : Prop where
  leaves : ∀ text ∈ strings, OnlyLeaves tables text
  keys_subset : keys ⊆ originals
  marked : marked = true
  repeats : (∀ text ∈ strings, Unsecret tables text) → repeats

theorem Sanitized.append {strings others keys otherKeys originals otherOriginals : List String}
    {marked otherMarked : Bool} {repeats otherRepeats : Prop}
    (first : Sanitized tables strings keys originals marked repeats)
    (rest : Sanitized tables others otherKeys otherOriginals otherMarked otherRepeats) :
    Sanitized tables (strings ++ others) (keys ++ otherKeys) (originals ++ otherOriginals)
      (marked && otherMarked) (repeats ∧ otherRepeats) where
  leaves text member :=
    (List.mem_append.mp member).elim (first.leaves text) (rest.leaves text)
  keys_subset _ member := List.mem_append.mpr <|
    (List.mem_append.mp member).imp (first.keys_subset ·) (rest.keys_subset ·)
  marked := by rw [first.marked, rest.marked]; rfl
  repeats unsecret :=
    ⟨first.repeats fun text member => unsecret text (List.mem_append_left _ member),
      rest.repeats fun text member => unsecret text (List.mem_append_right _ member)⟩

theorem Sanitized.imp {strings keys originals : List String} {marked : Bool}
    {repeats others : Prop} (sanitized : Sanitized tables strings keys originals marked repeats)
    (implies : repeats → others) : Sanitized tables strings keys originals marked others :=
  { sanitized with repeats := fun unsecret => implies (sanitized.repeats unsecret) }

/-- A field has its key before those of its value. -/
theorem Sanitized.key {strings keys originals : List String} {marked : Bool} {repeats : Prop}
    (sanitized : Sanitized tables strings keys originals marked repeats) (key : String) :
    Sanitized tables strings (key :: keys) (key :: originals) marked repeats :=
  { sanitized with keys_subset := List.cons_subset_cons key sanitized.keys_subset }

theorem sanitized_plain {repeats : Prop} (holds : repeats) :
    Sanitized tables [] [] [] true repeats :=
  ⟨by simp, by simp, rfl, fun _ => holds⟩

theorem sanitized_redacted (tables : CharTables) (originals : List String) :
    Sanitized tables [redacted] [] originals true True where
  leaves text member := by
    obtain rfl := List.mem_singleton.mp member
    exact fun pattern before word after equal matched =>
      absurd matched (unsecret_redacted pattern before word after equal)
  keys_subset := by simp
  marked := rfl
  repeats _ := trivial

section Values

variable (platform tables)

theorem sanitized_text (text : String) :
    Sanitized tables [redactSensitiveText tables text] [] [] true
      (redactSensitiveText tables (redactSensitiveText tables text) =
        redactSensitiveText tables text) where
  leaves other member := by
    obtain rfl := List.mem_singleton.mp member
    exact fun pattern before word after equal matched => leaves_of_redacted equal matched
  keys_subset := by simp
  marked := rfl
  repeats unsecret := redactSensitiveText_of_unsecret (unsecret _ (List.mem_singleton_self _))

variable {platform tables}

section Fields

variable (masking : Platform) {key : String} (item : ProviderValue)
  (rest : List (Option String × ProviderValue)) (depth : Nat)

theorem sanitizeFields_secret (named : ¬(key = "" ∨ maxResultKeyChars < key.length))
    (secret : isSecretKey key [] = true) :
    sanitizeValue.sanitizeFields masking ((some key, item) :: rest) depth =
      (sanitizeValue.sanitizeFields masking rest depth).bind fun others =>
        .ok ((key, .str redacted) :: others) := by
  rw [sanitizeValue.sanitizeFields, if_neg named]
  simp only [secret, if_true]
  rfl

theorem sanitizeFields_open (named : ¬(key = "" ∨ maxResultKeyChars < key.length))
    (secret : ¬isSecretKey key [] = true) :
    sanitizeValue.sanitizeFields masking ((some key, item) :: rest) depth =
      (sanitizeValue masking item (depth + 1)).bind fun first =>
        (sanitizeValue.sanitizeFields masking rest depth).bind fun others =>
          .ok ((key, first) :: others) := by
  rw [sanitizeValue.sanitizeFields, if_neg named]
  simp only [if_neg secret]
  rfl

end Fields

mutual

theorem sanitizeValue_ok {value : ProviderValue} {depth : Nat} {safe : Value}
    (ok : sanitizeValue (maskingPlatform platform tables) value depth = .ok safe) :
    Sanitized tables (stringsIn safe) (keysIn safe) (providedKeys value) (storable [] safe)
      (sanitizeValue (maskingPlatform platform tables) (provided safe) depth = .ok safe) := by
  have again := ok
  unfold sanitizeValue at ok
  split at ok
  next => cases ok
  next shallow =>
    cases value with
    | none | bool | int =>
        obtain rfl := Except.ok.inj ok
        exact sanitized_plain again
    | float number =>
        dsimp only at ok
        split at ok
        · obtain rfl := Except.ok.inj ok
          exact sanitized_plain again
        · cases ok
    | str text =>
        obtain rfl := Except.ok.inj ok
        refine (sanitized_text tables text).imp fun same => ?_
        unfold sanitizeValue
        rw [if_neg shallow]
        exact congrArg (Except.ok ∘ Value.str) same
    | other => cases ok
    | list items =>
        dsimp only at ok
        split at ok
        next => cases ok
        next few =>
          obtain ⟨others, at_items, rfl⟩ := map_eq_ok_iff.mp ok
          obtain ⟨length_eq, ofItems⟩ := sanitizeItems_ok at_items
          refine ofItems.imp fun items_again => ?_
          unfold sanitizeValue
          rw [if_neg shallow, provided]
          dsimp only
          rw [length_providedItems, length_eq, if_neg few, items_again]
          rfl
    | dict fields =>
        dsimp only at ok
        split at ok
        next => cases ok
        next few =>
          obtain ⟨others, at_fields, rfl⟩ := map_eq_ok_iff.mp ok
          obtain ⟨length_eq, ofFields⟩ := sanitizeFields_ok at_fields
          refine ofFields.imp fun fields_again => ?_
          unfold sanitizeValue
          rw [if_neg shallow, provided]
          dsimp only
          rw [length_providedFields, length_eq, if_neg few, fields_again]
          rfl

theorem sanitizeItems_ok {items : List ProviderValue} {depth : Nat} {safe : List Value}
    (ok : sanitizeValue.sanitizeItems (maskingPlatform platform tables) items depth = .ok safe) :
    safe.length = items.length ∧
      Sanitized tables (stringsIn.itemStrings safe) (keysIn.itemKeys safe)
        (providedKeys.itemKeys items) (storable.storableItems [] safe)
        (sanitizeValue.sanitizeItems (maskingPlatform platform tables)
          (provided.providedItems safe) depth = .ok safe) := by
  cases items with
  | nil =>
      obtain rfl := Except.ok.inj ok
      exact ⟨rfl, sanitized_plain ok⟩
  | cons item rest =>
      unfold sanitizeValue.sanitizeItems at ok
      obtain ⟨first, at_item, ok⟩ := bind_eq_ok_iff.mp ok
      obtain ⟨others, at_rest, ok⟩ := bind_eq_ok_iff.mp ok
      obtain rfl := Except.ok.inj ok
      obtain ⟨length_eq, ofRest⟩ := sanitizeItems_ok at_rest
      refine ⟨congrArg (· + 1) length_eq, ((sanitizeValue_ok at_item).append ofRest).imp ?_⟩
      rintro ⟨item_again, rest_again⟩
      rw [provided.providedItems, sanitizeValue.sanitizeItems, item_again, rest_again]
      rfl

theorem sanitizeFields_ok {fields : List (Option String × ProviderValue)} {depth : Nat}
    {safe : Params}
    (ok : sanitizeValue.sanitizeFields (maskingPlatform platform tables) fields depth = .ok safe) :
    safe.length = fields.length ∧
      Sanitized tables (stringsIn.fieldStrings safe) (keysIn.fieldKeys safe)
        (providedKeys.fieldKeys fields) (storableParams [] safe)
        (sanitizeValue.sanitizeFields (maskingPlatform platform tables)
          (provided.providedFields safe) depth = .ok safe) := by
  cases fields with
  | nil =>
      obtain rfl := Except.ok.inj ok
      exact ⟨rfl, sanitized_plain ok⟩
  | cons field rest =>
      obtain ⟨_ | key, item⟩ := field
      · cases ok
      by_cases named : key = "" ∨ maxResultKeyChars < key.length
      · unfold sanitizeValue.sanitizeFields at ok
        rw [if_pos named] at ok
        cases ok
      by_cases secret : isSecretKey key [] = true
      · rw [sanitizeFields_secret _ _ _ _ named secret] at ok
        obtain ⟨others, at_rest, ok⟩ := bind_eq_ok_iff.mp ok
        obtain rfl := Except.ok.inj ok
        obtain ⟨length_eq, ofRest⟩ := sanitizeFields_ok at_rest
        refine ⟨congrArg (· + 1) length_eq, ?_⟩
        have marked_eq : storableParams [] ((key, .str redacted) :: others) =
            (true && storableParams [] others) := by
          rw [storableParams, storable.storableFields, if_pos secret]
          rfl
        rw [marked_eq]
        refine (((sanitized_redacted tables (providedKeys item)).append ofRest).key key).imp ?_
        rintro ⟨_, again⟩
        rw [provided.providedFields, sanitizeFields_secret _ _ _ _ named secret, again]
        rfl
      · rw [sanitizeFields_open _ _ _ _ named secret] at ok
        obtain ⟨first, at_item, ok⟩ := bind_eq_ok_iff.mp ok
        obtain ⟨others, at_rest, ok⟩ := bind_eq_ok_iff.mp ok
        obtain rfl := Except.ok.inj ok
        obtain ⟨length_eq, ofRest⟩ := sanitizeFields_ok at_rest
        refine ⟨congrArg (· + 1) length_eq, ?_⟩
        have marked_eq : storableParams [] ((key, first) :: others) =
            (storable [] first && storableParams [] others) := by
          rw [storableParams, storable.storableFields, if_neg secret]
          rfl
        rw [marked_eq]
        refine (((sanitizeValue_ok at_item).append ofRest).key key).imp ?_
        rintro ⟨item_again, rest_again⟩
        rw [provided.providedFields, sanitizeFields_open _ _ _ _ named secret]
        exact bind_eq_ok_iff.mpr ⟨first, item_again,
          bind_eq_ok_iff.mpr ⟨others, rest_again, rfl⟩⟩

end

end Values

/-! ## Summaries -/

/-- A match of the assignment pattern may end in the ellipsis of a cut summary. -/
def SummaryLeaves (tables : CharTables) (summary : String) : Prop :=
  ∀ (pattern : SecretPattern) (before word after : List Char),
    summary.toList = before ++ (word ++ after) → (pattern.regex tables).Matches before word →
      pattern.Leaves before word ∨
        pattern = .assignment ∧ after = [] ∧ maxResultSummaryChars < summary.length

/-- Only the value of an assignment can end in an ellipsis. -/
theorem eq_assignment_of_ellipsis {pattern : SecretPattern} {word : List Char}
    (isWord : (pattern.regex tables).IsWord (word ++ ['…'])) : pattern = .assignment := by
  have member : '…' ∈ word ++ ['…'] := List.mem_append_right _ List.mem_cons_self
  cases pattern
  case assignment => rfl
  case urlPassword =>
    obtain ⟨init, ends⟩ := SecretPattern.exists_of_urlPassword isWord
    have last := (List.append_inj' ends rfl).2
    exact absurd last (by decide)
  all_goals exact absurd member (SecretPattern.not_mem_of_accepts isWord rfl)

variable (platform tables)

/-- A masked summary is cut, or is short enough. -/
theorem safeSummary_cases (summary : String) :
    (maxResultSummaryChars < (redactSensitiveText tables summary).length ∧
      (safeSummary (maskingPlatform platform tables) summary).toList =
        (redactSensitiveText tables summary).toList.take maxResultSummaryChars ++ ['…']) ∨
    ((redactSensitiveText tables summary).length ≤ maxResultSummaryChars ∧
      safeSummary (maskingPlatform platform tables) summary =
        redactSensitiveText tables summary) := by
  unfold safeSummary
  dsimp only [maskingPlatform]
  obtain short | long := le_or_gt (redactSensitiveText tables summary).length maxResultSummaryChars
  · rw [if_neg (not_lt.mpr short)]
    exact .inr ⟨short, rfl⟩
  · rw [if_pos long, String.toList_append, String.toList_ofList]
    exact .inl ⟨long, rfl⟩

theorem length_of_cut {text : String} {masked : List Char}
    (long : maxResultSummaryChars < masked.length)
    (cut : text.toList = masked.take maxResultSummaryChars ++ ['…']) :
    maxResultSummaryChars < text.length := by
  rw [← String.length_toList, cut, List.length_append, List.length_take,
    Nat.min_eq_left (Nat.le_of_lt long)]
  exact Nat.lt_succ_self _

/-- Cutting a masked text leaves what was left, and what the ellipsis completes. -/
theorem summaryLeaves_safeSummary (summary : String) :
    SummaryLeaves tables (safeSummary (maskingPlatform platform tables) summary) := by
  intro pattern before word after equal matched
  obtain ⟨long, cut⟩ | ⟨_, same⟩ := safeSummary_cases platform tables summary
  · rw [cut] at equal
    obtain rfl | ⟨after, last, rfl⟩ := List.eq_nil_or_concat after
    · obtain rfl | ⟨word, last, rfl⟩ := List.eq_nil_or_concat word
      · exact absurd rfl matched.2.ne_nil
      · rw [List.append_nil, List.concat_eq_append, ← List.append_assoc] at equal
        obtain ⟨_, same⟩ := List.append_inj' equal rfl
        obtain rfl := List.singleton_inj.mp same
        have isWord := matched.2
        rw [List.concat_eq_append] at isWord
        exact .inr ⟨eq_assignment_of_ellipsis isWord, rfl,
          length_of_cut (by rwa [String.length_toList]) cut⟩
    · rw [List.concat_eq_append, ← List.append_assoc, ← List.append_assoc] at equal
      obtain ⟨taken, _⟩ := List.append_inj' equal rfl
      have whole := List.take_append_drop maxResultSummaryChars
        (redactSensitiveText tables summary).toList
      rw [taken, List.append_assoc, List.append_assoc] at whole
      exact .inl (leaves_of_redacted whole.symm matched)
  · rw [same] at equal
    exact .inl (leaves_of_redacted equal matched)

theorem safeSummary_safeSummary (summary : String)
    (unsecret : Unsecret tables (safeSummary (maskingPlatform platform tables) summary)) :
    safeSummary (maskingPlatform platform tables)
        (safeSummary (maskingPlatform platform tables) summary) =
      safeSummary (maskingPlatform platform tables) summary := by
  have masked := redactSensitiveText_of_unsecret unsecret
  obtain ⟨long, cut⟩ | ⟨short, same⟩ := safeSummary_cases platform tables summary
  · have longer := length_of_cut (by rwa [String.length_toList]) cut
    obtain ⟨_, again⟩ | ⟨short, _⟩ := safeSummary_cases platform tables
      (safeSummary (maskingPlatform platform tables) summary)
    · apply String.toList_inj.mp
      rw [again, masked, cut, List.take_append_of_le_length, List.take_take, Nat.min_self]
      rw [List.length_take, String.length_toList]
      exact le_min le_rfl (Nat.le_of_lt long)
    · rw [masked] at short
      exact absurd longer (not_lt.mpr short)
  · obtain ⟨long, _⟩ | ⟨_, again⟩ := safeSummary_cases platform tables
      (safeSummary (maskingPlatform platform tables) summary)
    · rw [masked, same] at long
      exact absurd long (not_lt.mpr short)
    · rw [again, masked]

/-! ## Results -/

/-- The document whose encoding is bounded. -/
def resultDocument (result : ActionResult) : Value :=
  .dict [("summary", .str result.summary), ("data", .dict result.data)]

def returnedKeys : ProviderReturn → List String
  | .object _ => []
  | .actionResult _ _ data => providedKeys.fieldKeys data

/-- What is left in the values and in the summary is left at marks, and keys stay as they
are. -/
structure AtMarks (masking : Platform) (tables : CharTables) (maxBytes : Int)
    (returned : ProviderReturn) (result : ActionResult) : Prop where
  values : ∀ text ∈ stringsIn (.dict result.data), OnlyLeaves tables text
  summary : SummaryLeaves tables result.summary
  keys : keysIn (.dict result.data) ⊆ returnedKeys returned
  marked : storableParams [] result.data = true
  bounded : ∃ bytes : Nat, encodedBytes masking (resultDocument result) = some bytes ∧
    bytes ≤ maxBytes
  again : (∀ text ∈ result.summary :: stringsIn (.dict result.data), Unsecret tables text) →
    sanitizeActionResult masking maxBytes (providedResult result) = .ok result

variable {platform tables}

theorem sanitizeData_ok {data : List (Option String × ProviderValue)} {safe : Params}
    (ok : sanitizeData (maskingPlatform platform tables) data = .ok safe) :
    Sanitized tables (stringsIn.fieldStrings safe) (keysIn.fieldKeys safe)
      (providedKeys.fieldKeys data) (storableParams [] safe)
      (sanitizeData (maskingPlatform platform tables) (provided.providedFields safe) =
        .ok safe) := by
  unfold sanitizeData at ok
  split at ok
  next => cases ok
  next few =>
    obtain ⟨length_eq, ofFields⟩ := sanitizeFields_ok ok
    refine ofFields.imp fun fields_again => ?_
    rw [sanitizeData, length_providedFields, length_eq, if_neg few, fields_again]

namespace Demo

/-- A key behind another one, a URL with a password in the user name of another, and a key of
the data. -/
def leaking : ProviderReturn :=
  .actionResult true "https://https://a:b@:x@"
    [(some "sk-abcdefgh1", .str "AKIAABCDEFGHIJKLsk-abcdefgh12")]

def masking : Platform := maskingPlatform .plain .ascii

end Demo

end Era.Security
