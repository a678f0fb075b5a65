import Era.Core.CronReading
import Era.Lib.Pattern
import Era.Security.Redaction
import Era.Security.UrlSafety

/-!
# Credential patterns

`redact_sensitive_text` masks six patterns in one pass each.  A pass can set free a match of a
pattern whose pass is over: behind an AKIA key that the fourth pass has masked, and around the
mark of the last pass.  Nothing else is left.
-/

namespace Era.Security

open Era.Core Era.Lib.Pattern

/-! ## Characters -/

/-- The lower-case letter of ASCII as which `re.IGNORECASE` takes a character; besides those
of ASCII four letters count. -/
def foldCase (char : Char) : Char :=
  if char = '\u017f' then 's'
  else if char = '\u212a' then 'k'
  else if char = '\u0130' ∨ char = '\u0131' then 'i'
  else char.toLower

/-- `[A-Za-z0-9._~+/=-]`, ignoring case. -/
def isBearerChar (char : Char) : Bool :=
  (foldCase char).isAlphanum || "._~+/=-".toList.contains char

/-- `[A-Za-z0-9_-]`. -/
def isKeyChar (char : Char) : Bool := char.isAlphanum || char == '_' || char == '-'

/-- `[A-Za-z0-9_]`. -/
def isGithubChar (char : Char) : Bool := char.isAlphanum || char == '_'

/-- `[A-Z0-9]`. -/
def isAkiaChar (char : Char) : Bool := char.isUpper || char.isDigit

/-- A character of a class that is no white space and none of these. -/
def isNoneOf (excluded : String) (char : Char) : Bool :=
  !isPySpace char && !excluded.toList.contains char

/-- `[^\\s,;"']`. -/
def isValueChar : Char → Bool := isNoneOf ",;\"'"

/-! ## Patterns -/

def literal (text : String) : List (Segment Char) := text.toList.map fun char => .one (· == char)

/-- A text in lower case, compared ignoring case. -/
def literalIgnoringCase (text : String) : List (Segment Char) :=
  text.toList.map fun char => .one (foldCase · == char)

def oneOf (chars : String) (char : Char) : Bool := chars.toList.contains char

/-- The entries of `_SECRET_VALUE_PATTERNS`. -/
inductive SecretPattern where
  | bearerToken
  | skKey
  | githubToken
  | akiaKey
  | assignment
  | urlPassword
  deriving DecidableEq, Repr

namespace SecretPattern

/-- `password|passwd|api[_-]?key|access[_-]?token|secret`, ignoring case. -/
def keywords : List (List (Segment Char)) :=
  [literalIgnoringCase "password", literalIgnoringCase "passwd",
    literalIgnoringCase "api" ++ [.optional (oneOf "_-")] ++ literalIgnoringCase "key",
    literalIgnoringCase "access" ++ [.optional (oneOf "_-")] ++ literalIgnoringCase "token",
    literalIgnoringCase "secret"]

/-- `\\s*[:=]\\s*["']?`. -/
def separator : List (Segment Char) :=
  [.many 0 isPySpace, .one (oneOf ":="), .many 0 isPySpace, .optional (oneOf "\"'")]

def alternatives : SecretPattern → List (List (Segment Char))
  | bearerToken => [literalIgnoringCase "bearer" ++ [.many 1 isPySpace] ++ [.many 8 isBearerChar]]
  | skKey => [literal "sk-" ++ [.many 8 isKeyChar]]
  | githubToken =>
      [literal "gh" ++ [.one (oneOf "pousr")] ++ literal "_" ++ [.many 8 isGithubChar]]
  | akiaKey => [literal "AKIA" ++ [.many 12 isAkiaChar]]
  | assignment => keywords.map fun keyword => keyword ++ separator ++ [.many 4 isValueChar]
  | urlPassword =>
      [literalIgnoringCase "http" ++ [.optional (foldCase · == 's')] ++ literal "://" ++
        [.many 1 (isNoneOf "/:@")] ++ literal ":" ++ [.many 1 (isNoneOf "/@")] ++ literal "@"]

/-- `\\b`. -/
def boundary (tables : CharTables) (before next : Option Char) : Bool :=
  before.any tables.isWord != next.any tables.isWord

/-- The pattern as the source writes it; that of URLs has no `\\b` at its start. -/
def regex (tables : CharTables) (pattern : SecretPattern) : TextPattern Char :=
  { guard := if pattern = urlPassword then fun _ _ => true else boundary tables
    alternatives := pattern.alternatives
    starts := by
      intro parts listed
      cases pattern
      case assignment =>
        simp only [alternatives, keywords, List.map_cons, List.map_nil, List.mem_cons,
          List.not_mem_nil, or_false] at listed
        obtain rfl | rfl | rfl | rfl | rfl := listed <;> exact ⟨_, _, rfl⟩
      all_goals
        obtain rfl := List.mem_singleton.mp listed
        exact ⟨_, _, rfl⟩ }

/-- `pattern.sub(REDACTED, safe)`. -/
def mask (tables : CharTables) (pattern : SecretPattern) (safe : List Char) : List Char :=
  (pattern.regex tables).sub redacted.toList safe

end SecretPattern

def secretValuePatterns : List SecretPattern :=
  [.bearerToken, .skKey, .githubToken, .akiaKey, .assignment, .urlPassword]

/-- `redact_sensitive_text`. -/
def redactSensitiveText (tables : CharTables) (value : String) : String :=
  String.ofList (secretValuePatterns.foldl (fun safe pattern => pattern.mask tables safe)
    value.toList)

/-! ## What the patterns accept -/

/-- A character that ends a value has no case. -/
theorem foldCase_of_not_isValueChar {char : Char} (stops : isValueChar char = false) :
    foldCase char = char := by
  have different {other : Char} (goes : isValueChar other = true) : char ≠ other := by
    rintro rfl
    rw [stops] at goes
    cases goes
  have lower : ¬char.isUpper := by
    intro upper
    have bounds := isUpper_iff.mp upper
    rw [isValueChar, isNoneOf, not_isPySpace_of_isUpper upper, Bool.not_false, Bool.true_and,
      Bool.not_eq_false'] at stops
    have codes : char.toNat ∈ [44, 59, 34, 39] :=
      List.mem_map_of_mem (List.contains_iff_mem.mp stops)
    simp only [List.mem_cons, List.not_mem_nil, or_false] at codes
    omega
  rw [foldCase, if_neg (different rfl), if_neg (different rfl),
    if_neg (not_or.mpr ⟨different rfl, different rfl⟩), toLower_of_not_isUpper lower]

theorem isValueChar_of_foldCase {char letter : Char} (folds : (foldCase char == letter) = true)
    (goes : isValueChar letter = true) : isValueChar char = true := by
  by_contra stops
  rw [Bool.not_eq_true] at stops
  rw [foldCase_of_not_isValueChar stops, beq_iff_eq] at folds
  rw [folds, goes] at stops
  cases stops

theorem isAlphanum_of_isUpper {char : Char} (upper : char.isUpper = true) :
    char.isAlphanum = true := by
  have alpha : char.isAlpha = true := (Bool.or_eq_true _ _).mpr (.inl upper)
  exact (Bool.or_eq_true _ _).mpr (.inl alpha)

/-- A letter to which no letter outside ASCII folds. -/
theorem isAlphanum_of_foldCase {char letter : Char} (folds : (foldCase char == letter) = true)
    (alphanum : letter.isAlphanum = true) (ordinary : letter ∉ ['s', 'k', 'i']) :
    char.isAlphanum = true := by
  rw [beq_iff_eq] at folds
  unfold foldCase at folds
  split at folds
  · exact absurd (folds ▸ by decide) ordinary
  split at folds
  · exact absurd (folds ▸ by decide) ordinary
  split at folds
  · exact absurd (folds ▸ by decide) ordinary
  by_cases upper : char.isUpper = true
  · exact isAlphanum_of_isUpper upper
  · rw [toLower_of_not_isUpper upper] at folds
    rwa [folds]

/-! ## What the patterns are like -/

theorem redacted_toList : redacted.toList = '[' :: "REDACTED]".toList := rfl

theorem redacted_ne_nil : redacted.toList ≠ [] := by
  rw [redacted_toList]
  exact List.cons_ne_nil _ _

namespace SecretPattern

variable (tables : CharTables) (pattern : SecretPattern)

/-- No match begins within a mark. -/
theorem avoids : (pattern.regex tables).Avoids redacted.toList := by
  intro start rest mark_eq nonempty beyond
  have suffix : rest ∈ redacted.toList.tails := (List.mem_tails ..).mpr ⟨start, mark_eq.symm⟩
  have listed : rest ∈ ["[REDACTED]".toList, "REDACTED]".toList, "EDACTED]".toList,
      "DACTED]".toList, "ACTED]".toList, "CTED]".toList, "TED]".toList, "ED]".toList,
      "D]".toList, "]".toList, []] := suffix
  simp only [List.mem_cons, List.not_mem_nil, or_false] at listed
  obtain rfl | rfl | rfl | rfl | rfl | rfl | rfl | rfl | rfl | rfl | rfl := listed
  case inr.inr.inr.inr.inr.inr.inr.inr.inr.inr => exact absurd rfl nonempty
  all_goals cases pattern <;> rfl

/-- Whether some part accepts a character. -/
def accepts (char : Char) : Bool :=
  pattern.alternatives.any fun parts => parts.any fun part => part.accepts char

variable {tables pattern} {word : List Char}

theorem accepts_of_mem (isWord : (pattern.regex tables).IsWord word) {char : Char}
    (member : char ∈ word) : pattern.accepts char = true := by
  obtain ⟨parts, listed, reads⟩ := isWord
  obtain ⟨part, among, accepted⟩ := reads.accepted member
  exact List.any_eq_true.mpr ⟨parts, listed, List.any_eq_true.mpr ⟨part, among, accepted⟩⟩

theorem not_mem_of_accepts (isWord : (pattern.regex tables).IsWord word) {char : Char}
    (refused : pattern.accepts char = false) : char ∉ word := by
  intro member
  rw [accepts_of_mem isWord member] at refused
  cases refused

theorem clear_of_not_mem (absent : '[' ∉ word) : Clear redacted.toList word := by
  rintro start rest rfl nonempty
  have notIn : '[' ∉ rest := fun member => absent (List.mem_append_right _ member)
  constructor
  · rintro ⟨others, mark_eq⟩
    cases rest with
    | nil => exact nonempty rfl
    | cons first rest =>
        obtain rfl := (List.cons.inj mark_eq).1
        exact notIn List.mem_cons_self
  · rintro ⟨others, rfl⟩
    exact notIn List.mem_cons_self

/-- Whether a match can begin with a character. -/
def beginsWith (pattern : SecretPattern) (char : Char) : Bool :=
  pattern.alternatives.any fun parts => parts.head?.any fun part => part.accepts char

theorem beginsWith_of_head? (isWord : (pattern.regex tables).IsWord word) {char : Char}
    (first : word.head? = some char) : pattern.beginsWith char = true := by
  obtain ⟨parts, listed, reads⟩ := isWord
  obtain ⟨accepts, others, rfl⟩ := (pattern.regex tables).starts parts listed
  obtain ⟨symbol, rest, rfl, accepted, _⟩ := reads
  obtain rfl := Option.some.inj first
  exact List.any_eq_true.mpr ⟨_, listed, accepted⟩

/-- The class of the final repetition; the pattern of URLs has none. -/
def final : SecretPattern → Option (Char → Bool)
  | bearerToken => some isBearerChar
  | skKey => some isKeyChar
  | githubToken => some isGithubChar
  | akiaKey => some isAkiaChar
  | assignment => some isValueChar
  | urlPassword => none

theorem endsIn_of_final {accepts : Char → Bool} (ends : pattern.final = some accepts) :
    (pattern.regex tables).EndsIn accepts := by
  intro parts listed
  cases pattern
  case urlPassword => cases ends
  case assignment =>
    obtain rfl := Option.some.inj ends
    obtain ⟨keyword, _, rfl⟩ := List.mem_map.mp listed
    exact ⟨_, _, rfl⟩
  all_goals
    obtain rfl := Option.some.inj ends
    obtain rfl := List.mem_singleton.mp listed
    exact ⟨_, _, rfl⟩

/-- No match follows directly on one that would have taken its first character. -/
theorem neutral_of_final {other : SecretPattern} {accepts : Char → Bool}
    (ends : pattern.final = some accepts)
    (takes : ∀ char, other.beginsWith char = true → accepts char = true) :
    (other.regex tables).Neutral (pattern.regex tables) redacted.toList := by
  rintro earlier word _ _ found next back isWord rfl _
  cases next with
  | nil => exact absurd rfl isWord.ne_nil
  | cons char next =>
      have refused : accepts char = false := (endsIn_of_final ends).stops found rfl
      rw [takes char (beginsWith_of_head? isWord rfl)] at refused
      cases refused

/-- A match of the URL pattern ends with a character that no mark has. -/
theorem exists_of_urlPassword (isWord : (urlPassword.regex tables).IsWord word) :
    ∃ init, word = init ++ ['@'] := by
  obtain ⟨parts, listed, reads⟩ := isWord
  obtain rfl := List.mem_singleton.mp listed
  obtain ⟨init, last, rfl, _, symbol, rest, rfl, accepted, rfl⟩ := reads_append.mp reads
  obtain rfl := beq_iff_eq.mp accepted
  exact ⟨init, rfl⟩

/-- The end of a URL's password is no part of a word, and neither is the end of the mark. -/
theorem neutral_urlPassword (other : SecretPattern) :
    (other.regex tables).Neutral (urlPassword.regex tables) redacted.toList := by
  rintro earlier word _ ofUrl _ next back _ rfl guarded
  obtain ⟨init, rfl⟩ := exists_of_urlPassword ofUrl
  have notAt : tables.isWord '@' = false := tables.isWord_ascii '@' (by decide)
  have notBracket : tables.isWord ']' = false := tables.isWord_ascii ']' (by decide)
  have last : redacted.toList.getLast? = some ']' := rfl
  rw [last] at guarded
  rw [List.getLast?_concat]
  cases other
  case urlPassword => rfl
  all_goals
    change (tables.isWord ']' != _) = true at guarded
    change (tables.isWord '@' != _) = true
    rwa [notAt, ← notBracket]

theorem spares_urlPassword : (urlPassword.regex tables).Spares redacted.toList := by
  intro earlier word rest ofUrl _ last next last_eq _ marked
  obtain ⟨init, rfl⟩ := exists_of_urlPassword ofUrl
  rw [List.getLast?_concat] at last_eq
  obtain rfl := Option.some.inj last_eq
  exact absurd marked (by decide)

theorem spares_assignment : (assignment.regex tables).Spares redacted.toList := by
  intro earlier word rest _ found last next _ next_eq _ marked
  have ends : (assignment.regex tables).EndsIn isValueChar := endsIn_of_final rfl
  have stops := ends.stops found next_eq
  have all : ∀ char ∈ redacted.toList, isValueChar char = true :=
    List.all_eq_true.mp (by decide +kernel)
  rw [all next marked] at stops
  cases stops

theorem isValueChar_of_literal {text : String}
    (all : text.toList.all isValueChar = true) {part : Segment Char}
    (member : part ∈ literalIgnoringCase text) {char : Char} (accepted : part.accepts char = true) :
    isValueChar char = true := by
  obtain ⟨letter, listed, rfl⟩ := List.mem_map.mp member
  exact isValueChar_of_foldCase accepted (List.all_eq_true.mp all letter listed)

theorem isValueChar_of_oneOf {char : Char} (listed : oneOf "_-" char = true) :
    isValueChar char = true := by
  have all : "_-".toList.all isValueChar = true := by decide
  exact List.all_eq_true.mp all char (List.contains_iff_mem.mp listed)

/-- Keywords have no character that ends a value. -/
theorem isValueChar_of_keyword {keyword : List (Segment Char)} (listed : keyword ∈ keywords)
    {part : Segment Char} (member : part ∈ keyword) {char : Char}
    (accepted : part.accepts char = true) : isValueChar char = true := by
  simp only [keywords, List.mem_cons, List.not_mem_nil, or_false] at listed
  obtain rfl | rfl | rfl | rfl | rfl := listed
  case inr.inr.inl | inr.inr.inr.inl =>
    rw [List.mem_append, List.mem_append, List.mem_singleton] at member
    obtain (member | rfl) | member := member
    · exact isValueChar_of_literal rfl member accepted
    · exact isValueChar_of_oneOf accepted
    · exact isValueChar_of_literal rfl member accepted
  all_goals exact isValueChar_of_literal rfl member accepted

theorem least_keyword {keyword : List (Segment Char)} (listed : keyword ∈ keywords) :
    4 ≤ leastLength keyword := by
  simp only [keywords, List.mem_cons, List.not_mem_nil, or_false] at listed
  obtain rfl | rfl | rfl | rfl | rfl := listed <;> decide

theorem opens_assignment : (assignment.regex tables).Opens 4 isValueChar := by
  apply TextPattern.opens
  intro parts listed
  obtain ⟨keyword, among, rfl⟩ := List.mem_map.mp listed
  exact ⟨keyword, separator ++ [.many 4 isValueChar], List.append_assoc .., least_keyword among,
    fun part member char accepted => isValueChar_of_keyword among member accepted⟩

theorem opens_urlPassword : (urlPassword.regex tables).Opens 4 isValueChar := by
  apply TextPattern.opens
  intro parts listed
  obtain rfl := List.mem_singleton.mp listed
  simp only [List.append_assoc]
  exact ⟨literalIgnoringCase "http", _, rfl, by decide,
    fun part member char accepted => isValueChar_of_literal rfl member accepted⟩

/-- Up to its value a match of the assignment pattern is clear of the marks, and any value of
four characters would do. -/
theorem exists_of_assignment (isWord : (assignment.regex tables).IsWord word) :
    ∃ start run, word = start ++ run ∧ '[' ∉ start ∧ start ≠ [] ∧ 4 ≤ run.length ∧
      (∀ char ∈ run, isValueChar char = true) ∧
      ∀ taken : List Char, 4 ≤ taken.length → (∀ char ∈ taken, isValueChar char = true) →
        (assignment.regex tables).IsWord (start ++ taken) := by
  obtain ⟨parts, listed, reads⟩ := isWord
  obtain ⟨keyword, among, rfl⟩ := List.mem_map.mp listed
  obtain ⟨start, _, rfl, ofStart, run, _, rfl, enough, all, rfl⟩ := reads_append.mp reads
  refine ⟨start, run, by rw [List.append_nil], ?_, ?_, enough, all, ?_⟩
  · intro member
    obtain ⟨part, ofParts, accepted⟩ := ofStart.accepted member
    have refused : (keywords.all fun keyword =>
        (keyword ++ separator).all fun part => !part.accepts '[') = true := rfl
    have no := List.all_eq_true.mp (List.all_eq_true.mp refused keyword among) part ofParts
    rw [accepted] at no
    cases no
  · rintro rfl
    obtain ⟨left, right, nil_eq, ofKeyword, _⟩ := reads_append.mp ofStart
    obtain ⟨rfl, rfl⟩ := List.append_eq_nil_iff.mp nil_eq.symm
    have long := (least_keyword among).trans ofKeyword.le_length
    cases long
  · intro taken enough all
    exact ⟨_, listed, reads_append.mpr ⟨start, taken, rfl, ofStart, taken, [],
      (List.append_nil taken).symm, enough, all, rfl⟩⟩

/-- Matches of these patterns have no character of a mark. -/
def isToken : SecretPattern → Bool
  | bearerToken | skKey | githubToken | akiaKey => true
  | assignment | urlPassword => false

theorem clear_of_isToken (token : pattern.isToken = true)
    (isWord : (pattern.regex tables).IsWord word) : Clear redacted.toList word := by
  refine clear_of_not_mem (not_mem_of_accepts isWord ?_)
  cases pattern
  case assignment | urlPassword => cases token
  all_goals rfl

/-- A match of the URL pattern with no whole mark in it is clear of the marks. -/
theorem clear_of_urlPassword (isWord : (urlPassword.regex tables).IsWord word)
    (unmarked : ¬redacted.toList <:+: word) : Clear redacted.toList word := by
  obtain ⟨init, rfl⟩ := exists_of_urlPassword isWord
  intro start rest word_eq nonempty
  constructor
  · rintro ⟨others, mark_eq⟩
    have last : '@' ∈ rest := by
      have ends := congrArg List.getLast? word_eq
      rw [List.getLast?_concat, List.getLast?_append_of_ne_nil _ nonempty] at ends
      exact List.mem_of_getLast? ends.symm
    have marked : '@' ∈ redacted.toList := mark_eq ▸ List.mem_append_left others last
    exact absurd marked (by decide)
  · rintro ⟨others, rfl⟩
    exact unmarked ⟨start, others, by rw [word_eq, List.append_assoc]⟩

/-! ## What a pass leaves -/

variable {text : List Char}

theorem foldCase_of_bearerToken {char : Char} (begins : bearerToken.beginsWith char = true) :
    (foldCase char == 'b') = true := by
  obtain ⟨parts, listed, first⟩ := List.any_eq_true.mp begins
  obtain rfl := List.mem_singleton.mp listed
  exact first

/-- The one character that a match of these patterns begins with. -/
def firstChar : SecretPattern → Option Char
  | skKey => some 's'
  | githubToken => some 'g'
  | akiaKey => some 'A'
  | bearerToken | assignment | urlPassword => none

theorem eq_of_beginsWith {char first : Char} (begins : pattern.beginsWith char = true)
    (known : pattern.firstChar = some first) : char = first := by
  obtain ⟨parts, listed, accepted⟩ := List.any_eq_true.mp begins
  cases pattern
  case bearerToken | assignment | urlPassword => cases known
  all_goals
    obtain rfl := Option.some.inj known
    obtain rfl := List.mem_singleton.mp listed
    exact beq_iff_eq.mp accepted

theorem unmatched_mask {accepts : Char → Bool} (token : pattern.isToken = true)
    (ends : pattern.final = some accepts)
    (takes : ∀ char, pattern.beginsWith char = true → accepts char = true) :
    (pattern.regex tables).Unmatched (mask tables pattern text) :=
  unmatched_sub redacted_ne_nil (avoids tables pattern) (fun _ => clear_of_isToken token)
    (neutral_of_final ends takes)

theorem unmatched_mask_final (other : SecretPattern) {accepts : Char → Bool}
    (token : pattern.isToken = true) (ends : other.final = some accepts)
    (takes : ∀ char, pattern.beginsWith char = true → accepts char = true)
    (unmatched : (pattern.regex tables).Unmatched text) :
    (pattern.regex tables).Unmatched (mask tables other text) :=
  unmatched.sub redacted_ne_nil (avoids tables pattern) (fun _ => clear_of_isToken token)
    (neutral_of_final ends takes)

theorem unmatched_mask_urlPassword (token : pattern.isToken = true)
    (unmatched : (pattern.regex tables).Unmatched text) :
    (pattern.regex tables).Unmatched (mask tables urlPassword text) :=
  unmatched.sub redacted_ne_nil (avoids tables pattern) (fun _ => clear_of_isToken token)
    (neutral_urlPassword pattern)

/-- The value of an assignment would take whatever any pattern begins with. -/
theorem isValueChar_of_beginsWith {char : Char} (begins : pattern.beginsWith char = true) :
    isValueChar char = true := by
  obtain ⟨parts, listed, first⟩ := List.any_eq_true.mp begins
  cases pattern
  case assignment =>
    obtain ⟨keyword, among, rfl⟩ := List.mem_map.mp listed
    simp only [keywords, List.mem_cons, List.not_mem_nil, or_false] at among
    obtain rfl | rfl | rfl | rfl | rfl := among <;>
      exact isValueChar_of_foldCase first (by decide)
  case bearerToken | urlPassword =>
    obtain rfl := List.mem_singleton.mp listed
    exact isValueChar_of_foldCase first (by decide)
  all_goals
    obtain rfl := List.mem_singleton.mp listed
    obtain rfl := beq_iff_eq.mp first
    decide

/-- The last three passes: behind an AKIA key a match of an earlier pattern may be set free,
but then it stands behind the mark of the key to the end. -/
theorem behind_of_unmatched (token : pattern.isToken = true)
    (unmatched : (pattern.regex tables).Unmatched text) :
    (pattern.regex tables).Behind redacted.toList
      (mask tables urlPassword (mask tables assignment (mask tables akiaKey text))) := by
  have clear (word : List Char) (isWord : (pattern.regex tables).IsWord word) :=
    clear_of_isToken token isWord
  have freed : (pattern.regex tables).Behind redacted.toList (mask tables akiaKey text) :=
    unmatched.behind_sub (avoids tables pattern) clear
  have kept : (pattern.regex tables).Behind redacted.toList
      (mask tables assignment (mask tables akiaKey text)) :=
    freed.sub redacted_ne_nil (avoids tables pattern) clear
      (neutral_of_final rfl fun _ => isValueChar_of_beginsWith) spares_assignment
  exact kept.sub redacted_ne_nil (avoids tables pattern) clear (neutral_urlPassword pattern)
    spares_urlPassword

/-- The pass of the assignment pattern leaves no assignment, and the next pass makes none. -/
theorem unmatched_assignment :
    (assignment.regex tables).Unmatched
      (mask tables urlPassword (mask tables assignment text)) := by
  have unmatched : (assignment.regex tables).Unmatched (mask tables assignment text) := by
    intro before word after equal matched
    obtain ⟨start, run, rfl, absent, nonempty, enough, all, repeats⟩ :=
      exists_of_assignment matched.2
    rw [List.append_assoc] at equal
    exact not_matches_sub_run redacted_ne_nil (avoids tables assignment)
      (neutral_of_final rfl fun _ => isValueChar_of_beginsWith) opens_assignment
      (clear_of_not_mem absent) nonempty enough all repeats equal matched
  intro before word after equal matched
  obtain ⟨start, run, rfl, absent, nonempty, enough, all, repeats⟩ :=
    exists_of_assignment matched.2
  rw [List.append_assoc] at equal
  obtain ⟨before, taken, after, text_eq, inText, _⟩ := exists_matches_run redacted_ne_nil
    (avoids tables assignment) (neutral_urlPassword assignment) opens_urlPassword
    (clear_of_not_mem absent) nonempty enough all repeats matched equal
  exact unmatched before (start ++ taken) after text_eq inText

/-- What the pass of the URL pattern leaves of its own matches has a mark in it. -/
theorem infix_of_urlPassword {before after : List Char}
    (equal : mask tables urlPassword text = before ++ (word ++ after))
    (matched : (urlPassword.regex tables).Matches before word) :
    redacted.toList <:+: word := by
  by_contra unmarked
  exact not_matches_sub redacted_ne_nil (avoids tables urlPassword)
    (neutral_urlPassword urlPassword) (clear_of_urlPassword matched.2 unmarked) equal matched

/-- What redaction may leave of the matches of a pattern: a token behind a mark, and a URL with
a mark in it. -/
def Leaves (pattern : SecretPattern) (before word : List Char) : Prop :=
  match pattern with
  | bearerToken | skKey | githubToken => redacted.toList <:+ before
  | akiaKey | assignment => False
  | urlPassword => redacted.toList <:+: word

end SecretPattern

open SecretPattern

theorem redactSensitiveText_eq (tables : CharTables) (value : String) :
    (redactSensitiveText tables value).toList =
      mask tables .urlPassword (mask tables .assignment (mask tables .akiaKey
        (mask tables .githubToken (mask tables .skKey (mask tables .bearerToken
          value.toList))))) := by
  rw [redactSensitiveText, String.toList_ofList, secretValuePatterns]
  simp only [List.foldl_cons, List.foldl_nil]

/-- The matches that are left in a redacted text. -/
theorem leaves_of_redacted {tables : CharTables} {value : String} {pattern : SecretPattern}
    {before word after : List Char}
    (equal : (redactSensitiveText tables value).toList = before ++ (word ++ after))
    (matched : (pattern.regex tables).Matches before word) : pattern.Leaves before word := by
  rw [redactSensitiveText_eq] at equal
  cases pattern with
  | bearerToken =>
      have alphanum {char : Char} (begins : beginsWith .bearerToken char = true) :
          char.isAlphanum = true :=
        isAlphanum_of_foldCase (foldCase_of_bearerToken begins) (by decide) (by decide)
      refine behind_of_unmatched rfl ?_ before word after equal matched
      refine unmatched_mask_final .githubToken rfl rfl ?_ ?_
      · intro char begins
        rw [isGithubChar, alphanum begins]
        rfl
      refine unmatched_mask_final .skKey rfl rfl ?_ ?_
      · intro char begins
        rw [isKeyChar, alphanum begins]
        rfl
      refine unmatched_mask rfl rfl ?_
      intro char begins
      rw [isBearerChar, beq_iff_eq.mp (foldCase_of_bearerToken begins)]
      rfl
  | skKey =>
      refine behind_of_unmatched rfl ?_ before word after equal matched
      refine unmatched_mask_final .githubToken rfl rfl ?_ (unmatched_mask rfl rfl ?_)
      all_goals
        intro char begins
        rw [eq_of_beginsWith begins rfl]
        rfl
  | githubToken =>
      refine behind_of_unmatched rfl (unmatched_mask rfl rfl ?_) before word after equal matched
      intro char begins
      rw [eq_of_beginsWith begins rfl]
      rfl
  | akiaKey =>
      refine unmatched_mask_urlPassword rfl ?_ before word after equal matched
      refine unmatched_mask_final .assignment rfl rfl
        (fun _ => isValueChar_of_beginsWith) (unmatched_mask rfl rfl ?_)
      intro char begins
      rw [eq_of_beginsWith begins rfl]
      rfl
  | assignment => exact unmatched_assignment before word after equal matched
  | urlPassword => exact infix_of_urlPassword equal matched

/-- A text without matches stays as it is. -/
theorem redactSensitiveText_of_unmatched {tables : CharTables} {value : String}
    (unmatched : ∀ pattern : SecretPattern, (pattern.regex tables).Unmatched value.toList) :
    redactSensitiveText tables value = value := by
  have same (pattern : SecretPattern) : pattern.mask tables value.toList = value.toList :=
    sub_eq_self (unmatched pattern)
  apply String.toList_inj.mp
  rw [redactSensitiveText_eq, same, same, same, same, same, same]

end Era.Security
