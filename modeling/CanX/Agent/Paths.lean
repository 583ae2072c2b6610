import CanX.Dbc.Service

/-! Repository-relative paths and ownership patterns: their normal forms, what a pattern covers, and when two patterns
are taken to overlap. -/

namespace CanX.Agent

open Dbc (CodePoint Text codePoint text)

/-- An `AgentToolingError` by its code and the field it names; texts and further details are left out. -/
structure AgentError where
  code : String
  field : Option String
  deriving DecidableEq

def pathInvalid (field : String) : AgentError := ⟨"agent.path_invalid", some field⟩

def refuseIf (condition : Prop) [Decidable condition] (error : AgentError) : Except AgentError Unit :=
  if condition then .error error else .ok ()

def asterisk : CodePoint := codePoint '*'

def question : CodePoint := codePoint '?'

def slash : CodePoint := codePoint '/'

def newline : CodePoint := codePoint '\n'

def dot : Text := text "."

def parent : Text := text ".."

section NormalForms

def isDriveLetter (point : CodePoint) : Bool :=
  codePoint 'A' ≤ point ∧ point ≤ codePoint 'Z' ∨ codePoint 'a' ≤ point ∧ point ≤ codePoint 'z'

/-- `_DRIVE_PREFIX`. -/
def hasDrivePrefix : Text → Bool
  | first :: second :: _ => isDriveLetter first ∧ second = codePoint ':'
  | _ => false

/-- `_reject_common`. -/
def rejectCommon (raw : Text) (field : String) : Except AgentError Text := do
  refuseIf (raw.strip = []) (pathInvalid field)
  refuseIf (0 ∈ raw.strip) (pathInvalid field)
  refuseIf (codePoint '\\' ∈ raw.strip) (pathInvalid field)
  refuseIf (raw.strip.head? = some slash ∨ hasDrivePrefix raw.strip = true) (pathInvalid field)
  return raw.strip

/-- One component of `posixpath.normpath`, of a path that does not begin with a slash. -/
def pushComponent (kept : List Text) (component : Text) : List Text :=
  if component = [] ∨ component = dot then kept
  else if component ≠ parent ∨ kept = [] ∨ kept.getLast? = some parent then kept ++ [component]
  else kept.dropLast

/-- `posixpath.normpath`, of a path that does not begin with a slash. -/
def normpath (path : Text) : Text :=
  let joined := [slash].intercalate ((path.splitOn slash).foldl pushComponent [])
  if joined = [] then dot else joined

def normalizeRepoPath (raw : Text) (field : String) : Except AgentError Text := do
  let candidate ← rejectCommon raw field
  let normalized := normpath candidate
  refuseIf (normalized = dot ∨ normalized = parent ∨ parent ++ [slash] <+: normalized) (pathInvalid field)
  return normalized

def normalizeRepoPattern (raw : Text) (field : String) : Except AgentError Text := do
  let candidate ← rejectCommon raw field
  refuseIf (candidate.getLast? = some slash) (pathInvalid field)
  refuseIf (∃ segment ∈ candidate.splitOn slash, segment = [] ∨ segment = dot ∨ segment = parent) (pathInvalid field)
  return candidate

end NormalForms

section Globs

/-- The pieces of the regular expression of a pattern. -/
inductive GlobPiece where
  | literal (point : CodePoint)
  /-- `[^/]` -/
  | one
  /-- `[^/]*` -/
  | within
  /-- `.*` -/
  | run
  /-- `(?:[^/]+/)*` -/
  | segments
  deriving DecidableEq

def singlePiece (point : CodePoint) : GlobPiece :=
  if point = asterisk then .within else if point = question then .one else .literal point

/-- `compile_glob`. -/
def compileGlob : Text → List GlobPiece
  | first :: second :: third :: rest =>
    if first = asterisk ∧ second = asterisk then
      if third = slash then .segments :: compileGlob rest else .run :: compileGlob (third :: rest)
    else singlePiece first :: compileGlob (second :: third :: rest)
  | [first, second] =>
    if first = asterisk ∧ second = asterisk then [.run] else [singlePiece first, singlePiece second]
  | [point] => [singlePiece point]
  | [] => []

/-- What is left of a text after its leading characters of a kind have been taken, as many of them as one likes. -/
def restsWhile (kind : CodePoint → Bool) : Text → List Text
  | [] => [[]]
  | point :: rest => (point :: rest) :: if kind point then restsWhile kind rest else []

/-- What is left after one or more whole segments; `begun` says whether the current one has a character already. -/
def restsAfterSegments (begun : Bool) : Text → List Text
  | [] => []
  | point :: rest =>
    if point = slash then if begun then rest :: restsAfterSegments false rest else []
    else restsAfterSegments true rest

/-- The rests that one piece can leave of a text. -/
def GlobPiece.rests : GlobPiece → Text → List Text
  | literal expected, point :: rest => if point = expected then [rest] else []
  | literal _, [] => []
  | one, point :: rest => if point ≠ slash then [rest] else []
  | one, [] => []
  | within, value => restsWhile (· ≠ slash) value
  | run, value => restsWhile (· ≠ newline) value
  | segments, value => value :: restsAfterSegments false value

/-- The anchored expression matches; `$` also matches before a newline at the end. -/
def accepts : List GlobPiece → Text → Bool
  | [], value => value = [] ∨ value = [newline]
  | piece :: pieces, value => (piece.rests value).any (accepts pieces)

def matchesPattern (path pattern : Text) : Bool := accepts (compileGlob pattern) path

def matchingPattern (path : Text) (patterns : List Text) : Option Text := patterns.find? (matchesPattern path)

def isWildcard (point : CodePoint) : Bool := point = asterisk ∨ point = question

def isGlob (pattern : Text) : Bool := pattern.any isWildcard

/-- `_literal_prefix`. -/
def literalPrefix (pattern : Text) : Text := pattern.takeWhile fun point => !isWildcard point

def patternsOverlap (left right : Text) : Bool :=
  match isGlob left, isGlob right with
  | false, false => left = right
  | false, true => matchesPattern left right
  | true, false => matchesPattern right left
  | true, true => literalPrefix right <+: literalPrefix left ∨ literalPrefix left <+: literalPrefix right

def overlappingPattern (pattern : Text) (patterns : List Text) : Option Text :=
  patterns.find? (patternsOverlap pattern)

/-- `is_within`. -/
def isWithin (path directory : Text) : Bool :=
  let base := (directory.reverse.dropWhile (· = slash)).reverse
  path = base ∨ base ++ [slash] <+: path

end Globs

/-! Two patterns that cover a common path overlap. -/

section Soundness

variable {path pattern left right : Text}

/-- Only an asterisk takes more than its own character into a piece. -/
theorem compileGlob_cons {point : CodePoint} (ordinary : point ≠ asterisk) (rest : Text) :
    compileGlob (point :: rest) = singlePiece point :: compileGlob rest := by
  match rest with
  | [] => rfl
  | [second] =>
    rw [compileGlob, if_neg fun both => ordinary both.1]
    rfl
  | second :: third :: others => rw [compileGlob, if_neg fun both => ordinary both.1]

private theorem singlePiece_literal {point : CodePoint} (plain : isWildcard point = false) :
    singlePiece point = .literal point := by
  have apart := not_or.mp (of_decide_eq_false plain)
  rw [singlePiece, if_neg apart.1, if_neg apart.2]

/-- A literal piece takes its own character. -/
theorem accepts_literal {point : CodePoint} {pieces : List GlobPiece}
    (taken : accepts (.literal point :: pieces) path = true) :
    ∃ rest, path = point :: rest ∧ accepts pieces rest = true := by
  cases path with
  | nil => cases taken
  | cons first rest =>
    by_cases same : first = point
    · refine ⟨rest, by rw [same], ?_⟩
      simpa [accepts, GlobPiece.rests, same] using taken
    · simp [accepts, GlobPiece.rests, same] at taken

/-- What a pattern covers begins with its literal prefix. -/
theorem literalPrefix_of_matches (covered : matchesPattern path pattern = true) : literalPrefix pattern <+: path := by
  induction pattern generalizing path with
  | nil => exact List.nil_prefix
  | cons point rest ih =>
    by_cases wild : isWildcard point = true
    · have none : literalPrefix (point :: rest) = [] := by simp [literalPrefix, wild]
      rw [none]
      exact List.nil_prefix
    · have plain : isWildcard point = false := by simpa using wild
      have ordinary : point ≠ asterisk := (not_or.mp (of_decide_eq_false plain)).1
      rw [matchesPattern, compileGlob_cons ordinary, singlePiece_literal plain] at covered
      obtain ⟨after, rfl, continued⟩ := accepts_literal covered
      have first : literalPrefix (point :: rest) = point :: literalPrefix rest := by simp [literalPrefix, plain]
      rw [first]
      exact List.cons_prefix_cons.mpr ⟨rfl, ih continued⟩

/-- A pattern without wildcards covers itself, and nothing else that does not end in a newline. -/
theorem eq_of_matches (plain : isGlob pattern = false) (covered : matchesPattern path pattern = true)
    (ended : path.getLast? ≠ some newline) : path = pattern := by
  induction pattern generalizing path with
  | nil =>
    rcases of_decide_eq_true covered with empty | rfl
    · exact empty
    · exact absurd rfl ended
  | cons point rest ih =>
    have apart := Bool.or_eq_false_iff.mp plain
    have ordinary : point ≠ asterisk := (not_or.mp (of_decide_eq_false apart.1)).1
    rw [matchesPattern, compileGlob_cons ordinary, singlePiece_literal apart.1] at covered
    obtain ⟨after, rfl, continued⟩ := accepts_literal covered
    have later : after.getLast? ≠ some newline := by
      intro last
      refine ended ?_
      rw [List.getLast?_cons, last]
      rfl
    rw [ih apart.2 continued later]

/-- The overlap test misses no common path. -/
theorem patternsOverlap_of_common (ended : path.getLast? ≠ some newline) (inLeft : matchesPattern path left = true)
    (inRight : matchesPattern path right = true) : patternsOverlap left right = true := by
  unfold patternsOverlap
  cases leftGlob : isGlob left with
  | false =>
    have same := eq_of_matches leftGlob inLeft ended
    cases rightGlob : isGlob right with
    | false =>
      have other := eq_of_matches rightGlob inRight ended
      exact decide_eq_true (same.symm.trans other)
    | true =>
      rw [← same]
      exact inRight
  | true =>
    cases rightGlob : isGlob right with
    | false =>
      rw [← eq_of_matches rightGlob inRight ended]
      exact inLeft
    | true =>
      have first := literalPrefix_of_matches inLeft
      have second := literalPrefix_of_matches inRight
      refine decide_eq_true ?_
      rcases Nat.le_total (literalPrefix left).length (literalPrefix right).length with shorter | longer
      · exact .inr (List.prefix_of_prefix_length_le first second shorter)
      · exact .inl (List.prefix_of_prefix_length_le second first longer)

end Soundness

end CanX.Agent
