import CanX.Agent.Leases
import CanX.Transition.Outcome

/-! Validation of a task contract and of the files that a task delivers, and how the conflict of two tasks is classified
on a file that both may deliver. -/

namespace CanX.Agent

open Dbc (CodePoint Text codePoint text)

section Validation

def branchInvalid : AgentError := ⟨"agent.branch_invalid", some "branch"⟩

def protectedPathConflict : AgentError := ⟨"agent.protected_path_conflict", none⟩

/-- An expression anchored by `^` and `$`; the latter also matches before a newline at the end. -/
def anchored (body : Text → Bool) (value : Text) : Bool :=
  body value || (value.getLast? = some newline && body value.dropLast)

def isDigit (point : CodePoint) : Bool := codePoint '0' ≤ point && point ≤ codePoint '9'

def isLowerHex (point : CodePoint) : Bool := isDigit point || (codePoint 'a' ≤ point && point ≤ codePoint 'f')

def isLowerAlphanumeric (point : CodePoint) : Bool := isDigit point || (codePoint 'a' ≤ point && point ≤ codePoint 'z')

/-- `SHA_RE.match`. -/
def isSha : Text → Bool := anchored fun value => value.length = 40 && value.all isLowerHex

/-- `_OWNER_RE.match`. -/
def isOwner : Text → Bool := anchored fun value =>
  value.head?.any isAlphanumeric && value.all isTaskIdCharacter && value.length ≤ 32

/-- `BRANCH_RE.match`. -/
def isBranch : Text → Bool := anchored fun value =>
  value.head?.any isAlphanumeric && value.all (fun point => isTaskIdCharacter point || point = slash) &&
    value.length ≤ 201

/-- `BRANCH_SLUG_RE.match`. -/
def isBranchSlug : Text → Bool := anchored fun value =>
  (value.splitOn (codePoint '-')).all fun word => word ≠ [] && word.all isLowerAlphanumeric

def validateBranchName (branch taskId owner : Text) (config : AgentConfig) : Except AgentError Unit := do
  refuseIf (isBranch branch = false ∨ parent <:+: branch ∨ branch.head? = some slash ∨ branch.getLast? = some slash ∨
    text ".lock" <:+ branch ∨ [slash, slash] <:+: branch) branchInvalid
  if config.isMainAgent owner then return ()
  refuseIf (¬config.branchPrefix <+: branch) branchInvalid
  let remainder := branch.drop config.branchPrefix.length
  refuseIf (¬taskId ++ text "-" <+: remainder) branchInvalid
  refuseIf (isBranchSlug (remainder.drop (taskId.length + 1)) = false) branchInvalid

/-- `_validate_execution_coordinates`. -/
def validateExecutionCoordinates (task : TaskContract) (config : AgentConfig) : Except AgentError Unit :=
  if task.executionMode = .nativeShared then do
    refuseIf (task.branch ≠ none) (taskInvalid "branch")
    refuseIf (task.worktree ≠ none) (taskInvalid "worktree")
  else do
    refuseIf (task.integrationPaths ≠ []) (taskInvalid "integration_paths")
    match task.branch, task.worktree with
    | none, _ => .error (taskInvalid "branch")
    | some _, none => .error (taskInvalid "worktree")
    | some branch, some worktree => do
      validateBranchName branch task.taskId task.owner config
      let normalized ← normalizeRepoPath worktree "worktree"
      refuseIf (isWithin normalized config.worktreesDir = false) (taskInvalid "worktree")

def normalizedPatterns (raw : List Text) (field : String) : Except AgentError (List Text) :=
  raw.mapM fun item => normalizeRepoPattern item field

/-- What `validate_task` asks of one normalised integration path. -/
def validateIntegrationPattern (config : AgentConfig) (forbidden : List Text) (pattern : Text) :
    Except AgentError Unit := do
  refuseIf ((overlappingPattern pattern (config.protectedPaths ++ config.publicTruthPaths ++ config.safetyPaths)).isSome)
    protectedPathConflict
  refuseIf (∃ blocked ∈ forbidden, patternsOverlap pattern blocked = true) (taskInvalid "integration_paths")
  refuseIf (isGlob pattern = true) (taskInvalid "integration_paths")

def validateContract (ref : ContractRef) : Except AgentError Unit := do
  let _ ← normalizeRepoPath ref.path "shared_contracts[].path"
  refuseIf (ref.sha.any (fun sha => !isSha sha) = true) (taskInvalid "shared_contracts[].sha")

def validateTask (task : TaskContract) (config : AgentConfig) : Except AgentError Unit := do
  refuseIf (isTaskId task.taskId = false) (taskInvalid "task_id")
  refuseIf (task.schemaVersion ≠ 1) (taskInvalid "schema_version")
  refuseIf (isOwner task.owner = false) (taskInvalid "owner")
  refuseIf (isSha task.baseSha = false) (taskInvalid "base_sha")
  validateExecutionCoordinates task config
  refuseIf (task.revision < 1) (taskInvalid "revision")
  refuseIf (task.allowedPaths = []) (taskInvalid "allowed_paths")
  let allowed ← normalizedPatterns task.allowedPaths "allowed_paths"
  let forbidden ← normalizedPatterns task.forbiddenPaths "forbidden_paths"
  let integration ← normalizedPatterns task.integrationPaths "integration_paths"
  refuseIf (∃ pattern ∈ allowed, ∃ blocked ∈ forbidden, patternsOverlap pattern blocked = true)
    (taskInvalid "allowed_paths")
  refuseIf (∃ pattern ∈ allowed, (overlappingPattern pattern config.protectedPaths).isSome ∧
    config.isMainAgent task.owner = false) protectedPathConflict
  integration.forM (validateIntegrationPattern config forbidden)
  task.sharedContracts.forM validateContract
  refuseIf (∃ dependency ∈ task.dependencies, isTaskId dependency = false) (taskInvalid "task_id")
  refuseIf (task.requiredTests = []) (taskInvalid "required_tests")
  refuseIf (task.acceptanceCriteria = []) (taskInvalid "acceptance_criteria")
  refuseIf (task.handoffRequirements = []) (taskInvalid "handoff_requirements")

/-- `ownership_violations`. -/
def ownershipViolations (task : TaskContract) (changedFiles : List Text) : Except AgentError (List Text) := do
  let allowed ← normalizedPatterns task.ownershipSurface "allowed_paths"
  let forbidden ← normalizedPatterns task.forbiddenPaths "forbidden_paths"
  let paths ← changedFiles.mapM fun raw => normalizeRepoPath raw "changed_files"
  return paths.filter fun path => (matchingPattern path allowed).isNone || (matchingPattern path forbidden).isSome

/-- The blanks around a pattern are gone once it is normalised. -/
example : normalizedPatterns [text " safety/a.py "] "allowed_paths" = .ok [text "safety/a.py"] := by decide +kernel

end Validation

section Acceptance

variable {task : TaskContract} {raw path : Text} {field : String}

private theorem rejectCommon_ok {candidate : Text} (read : rejectCommon raw field = .ok candidate) :
    candidate = raw.strip := by
  unfold rejectCommon at read
  obtain ⟨_, _, read⟩ := bind_ok.mp read
  obtain ⟨_, _, read⟩ := bind_ok.mp read
  obtain ⟨_, _, read⟩ := bind_ok.mp read
  obtain ⟨_, _, read⟩ := bind_ok.mp read
  exact (Except.ok.inj read).symm

/-- A pattern is normalised by taking the whitespace around it away. -/
theorem normalizeRepoPattern_ok {pattern : Text} (read : normalizeRepoPattern raw field = .ok pattern) :
    pattern = raw.strip := by
  unfold normalizeRepoPattern at read
  obtain ⟨candidate, begun, read⟩ := bind_ok.mp read
  obtain ⟨_, _, read⟩ := bind_ok.mp read
  obtain ⟨_, _, read⟩ := bind_ok.mp read
  rw [← Except.ok.inj read]
  exact rejectCommon_ok begun

/-- The normal form of an accepted file is covered by the normal form of a pattern of the surface. -/
theorem accepted_covered (accepted : ownershipViolations task [raw] = .ok [])
    (normal : normalizeRepoPath raw "changed_files" = .ok path) :
    ∃ pattern ∈ task.ownershipSurface, matchesPattern path pattern.strip = true := by
  unfold ownershipViolations at accepted
  obtain ⟨allowed, patterns, accepted⟩ := bind_ok.mp accepted
  obtain ⟨forbidden, _, accepted⟩ := bind_ok.mp accepted
  obtain ⟨paths, files, accepted⟩ := bind_ok.mp accepted
  obtain ⟨same, member, read⟩ := mapM_member files List.mem_cons_self
  obtain rfl := Except.ok.inj (normal.symm.trans read)
  have owned := List.filter_eq_nil_iff.mp (Except.ok.inj accepted) path member
  obtain ⟨pattern, found⟩ : ∃ pattern, matchingPattern path allowed = some pattern := by
    refine Option.ne_none_iff_exists'.mp fun none => owned ?_
    rw [none]
    rfl
  have covers : matchesPattern path pattern = true := List.find?_some found
  obtain ⟨source, inside, normalised⟩ := mapM_source patterns (List.mem_of_find?_eq_some found)
  rw [normalizeRepoPattern_ok normalised] at covers
  exact ⟨source, inside, covers⟩

end Acceptance

section Classification

variable {config : AgentConfig} {left right : TaskContract} {raw path pattern : Text}

/-- The path of a shared contract of either task. -/
def IsContractOf (left right : TaskContract) (path : Text) : Prop :=
  ∃ ref ∈ left.sharedContracts ++ right.sharedContracts, normalizeRepoPath ref.path "shared_contracts[].path" = .ok path

/-- The path of a file of some kind. -/
def Guarded (guards : List Text) (path : Text) : Prop := ∃ guard ∈ guards, matchesPattern path guard = true

/-- The conflict of two tasks is classified by what a file that both may deliver is, and keeps them apart if it is a
contract, truth or safety file. -/
structure Classified (config : AgentConfig) (left right : TaskContract) (path : Text) : Prop where
  shared : 1 ≤ (classifyPair left right config).level.value
  contract : IsContractOf left right path → 2 ≤ (classifyPair left right config).level.value
  truth : Guarded config.publicTruthPaths path → 3 ≤ (classifyPair left right config).level.value
  safety : Guarded config.safetyPaths path → (classifyPair left right config).level = .c4
  apart : IsContractOf left right path ∨ Guarded config.publicTruthPaths path ∨ Guarded config.safetyPaths path →
    ∀ tasks made, plan tasks config = .ok made → left ∈ tasks → right ∈ tasks → left.taskId ≠ right.taskId →
      ¬(left.taskId ∈ made.runnableIds ∧ right.taskId ∈ made.runnableIds)

/-- Of two patterns that overlap as they are written, one overlaps a guard. -/
def Reached (left right : TaskContract) (guards : List Text) : Prop :=
  ∃ pair ∈ overlappingPairs left right, ∃ guard ∈ guards,
    patternsOverlap pair.1 guard = true ∨ patternsOverlap pair.2 guard = true

/-- The patterns and contract paths as they are written show what the file is. -/
structure Visible (config : AgentConfig) (left right : TaskContract) (path : Text) : Prop where
  shared : overlappingPairs left right ≠ []
  contract : IsContractOf left right path →
    Reached left right (config.safetyPaths ++ config.publicTruthPaths ++ sharedContractPaths [left, right])
  truth : Guarded config.publicTruthPaths path → Reached left right (config.safetyPaths ++ config.publicTruthPaths)
  safety : Guarded config.safetyPaths path → Reached left right config.safetyPaths

/-- Both tasks write their patterns and the file's contract in normal form. -/
structure WrittenOut (left right : TaskContract) (path : Text) : Prop where
  patterns : ∀ pattern ∈ left.ownershipSurface ++ right.ownershipSurface, pattern.strip = pattern
  contracts : ∀ ref ∈ left.sharedContracts ++ right.sharedContracts,
    normalizeRepoPath ref.path "shared_contracts[].path" = .ok path → ref.path = path
  ended : path.getLast? ≠ some newline

private theorem pairLevel_reached {guards : List Text} {bound : Nat} (positive : 0 < bound)
    (levels : ∀ pattern, bound ≤ (classifyPattern pattern config (sharedContractPaths [left, right])).value ↔
      ∃ guard ∈ guards, patternsOverlap pattern guard = true) :
    bound ≤ (classifyPair left right config).level.value ↔ Reached left right guards := by
  rw [classifyPair_level, pairLevel_ge positive]
  refine exists_congr fun pair => and_congr_right fun _ => ?_
  rw [levels, levels]
  constructor
  · rintro (⟨guard, member, here⟩ | ⟨guard, member, here⟩)
    · exact ⟨guard, member, .inl here⟩
    · exact ⟨guard, member, .inr here⟩
  · rintro ⟨guard, member, here | here⟩
    · exact .inl ⟨guard, member, here⟩
    · exact .inr ⟨guard, member, here⟩

private theorem pairLevel_shared :
    1 ≤ (classifyPair left right config).level.value ↔ overlappingPairs left right ≠ [] := by
  rw [classifyPair_level, pairLevel_ge Nat.one_pos]
  constructor
  · rintro ⟨pair, member, -⟩
    exact List.ne_nil_of_mem member
  · intro some
    obtain ⟨pair, member⟩ := List.exists_mem_of_ne_nil _ some
    exact ⟨pair, member, .inl (classifyPattern_positive _)⟩

private theorem level_highest {level : ConflictLevel} : level = .c4 ↔ 4 ≤ level.value := by
  cases level <;> decide

/-- Two tasks are classified by what they share exactly if their patterns show it as they are written. -/
theorem classified_iff_visible : Classified config left right path ↔ Visible config left right path := by
  have contract : 2 ≤ (classifyPair left right config).level.value ↔ Reached left right
      (config.safetyPaths ++ config.publicTruthPaths ++ sharedContractPaths [left, right]) :=
    pairLevel_reached (by omega) classifyPattern_contract
  have truth : 3 ≤ (classifyPair left right config).level.value ↔
      Reached left right (config.safetyPaths ++ config.publicTruthPaths) :=
    pairLevel_reached (by omega) classifyPattern_truth
  have safety : 4 ≤ (classifyPair left right config).level.value ↔ Reached left right config.safetyPaths :=
    pairLevel_reached (by omega) classifyPattern_safety
  constructor
  · intro classified
    exact ⟨pairLevel_shared.mp classified.shared, fun own => contract.mp (classified.contract own),
      fun own => truth.mp (classified.truth own), fun own => safety.mp (level_highest.mp (classified.safety own))⟩
  · intro visible
    refine ⟨pairLevel_shared.mpr visible.shared, fun own => contract.mpr (visible.contract own),
      fun own => truth.mpr (visible.truth own), fun own => level_highest.mpr (safety.mpr (visible.safety own)),
      fun own tasks made planned inLeft inRight others => ?_⟩
    have serious : 2 ≤ (classifyPair left right config).level.value := by
      rcases own with own | own | own
      · exact contract.mpr (visible.contract own)
      · have level := truth.mpr (visible.truth own)
        omega
      · have level := safety.mpr (visible.safety own)
        omega
    refine runnable_exclusive planned inLeft inRight ⟨others, decide_eq_false ?_⟩
    exact Nat.not_le.mpr serious

/-- A pattern that covers a file overlaps the file's own path. -/
theorem patternsOverlap_path (ended : path.getLast? ≠ some newline) (covers : matchesPattern path pattern = true) :
    patternsOverlap pattern path = true := by
  unfold patternsOverlap
  cases plain : isGlob pattern with
  | false =>
    have same := eq_of_matches plain covers ended
    rw [same, plain]
    exact decide_eq_true rfl
  | true =>
    cases isGlob path with
    | false => exact covers
    | true =>
      refine decide_eq_true ?_
      have first := literalPrefix_of_matches covers
      have second : literalPrefix path <+: path := List.takeWhile_prefix _
      rcases Nat.le_total (literalPrefix pattern).length (literalPrefix path).length with shorter | longer
      · exact .inr (List.prefix_of_prefix_length_le first second shorter)
      · exact .inl (List.prefix_of_prefix_length_le second first longer)

/-- What both tasks write out in normal form shows. -/
theorem WrittenOut.visible (written : WrittenOut left right path)
    (inLeft : ∃ pattern ∈ left.ownershipSurface, matchesPattern path pattern.strip = true)
    (inRight : ∃ pattern ∈ right.ownershipSurface, matchesPattern path pattern.strip = true) :
    Visible config left right path := by
  obtain ⟨pattern, owned, covers⟩ := inLeft
  obtain ⟨other, ownedRight, coversRight⟩ := inRight
  rw [written.patterns pattern (List.mem_append_left _ owned)] at covers
  rw [written.patterns other (List.mem_append_right _ ownedRight)] at coversRight
  have pair : (pattern, other) ∈ overlappingPairs left right := by
    refine List.mem_flatMap.mpr ⟨pattern, owned, List.mem_map.mpr ⟨other, List.mem_filter.mpr ⟨ownedRight, ?_⟩, rfl⟩⟩
    exact patternsOverlap_of_common written.ended covers coversRight
  have guarded {guards wider : List Text} (own : Guarded guards path) (inside : ∀ guard ∈ guards, guard ∈ wider) :
      Reached left right wider := by
    obtain ⟨guard, member, here⟩ := own
    exact ⟨_, pair, guard, inside guard member, .inl (patternsOverlap_of_common written.ended covers here)⟩
  refine ⟨List.ne_nil_of_mem pair, fun own => ?_, fun own => ?_, fun own => ?_⟩
  · obtain ⟨ref, member, normal⟩ := own
    have same := written.contracts ref member normal
    refine ⟨_, pair, path, List.mem_append_right _ ?_, .inl (patternsOverlap_path written.ended covers)⟩
    rw [← same]
    have listed : ref.path ∈ (left.sharedContracts ++ right.sharedContracts).map ContractRef.path :=
      List.mem_map_of_mem member
    simpa [sharedContractPaths] using listed
  · exact guarded own fun guard member => List.mem_append_right _ member
  · exact guarded own fun guard member => member

end Classification

/-- The conflict of two tasks is classified by a file that both may deliver exactly if their patterns show it as they
are written; where both write them out in normal form, they do. -/
theorem shared_file_classified (config : AgentConfig) {left right : TaskContract} {raw path : Text}
    (inLeft : ownershipViolations left [raw] = .ok []) (inRight : ownershipViolations right [raw] = .ok [])
    (normal : normalizeRepoPath raw "changed_files" = .ok path) :
    (Classified config left right path ↔ Visible config left right path) ∧
      (WrittenOut left right path → Visible config left right path) :=
  ⟨classified_iff_visible, fun written =>
    written.visible (accepted_covered inLeft normal) (accepted_covered inRight normal)⟩

def safetyConfig : AgentConfig where
  maxSubAgents := 2
  branchPrefix := text "agent/"
  worktreesDir := text "worktrees"
  mainAgentIds := [text "main"]
  protectedPaths := [text "SPEC.md"]
  publicTruthPaths := [text "docs/**"]
  safetyPaths := [text "safety/**"]

/-- A valid task that owns one pattern. -/
def taskOn (taskId pattern : Text) (status : TaskStatus) (revision : Int) : TaskContract where
  taskId
  baseSha := List.replicate 40 (codePoint 'a')
  branch := text "agent/" ++ taskId ++ text "-work"
  worktree := text "worktrees/" ++ taskId
  owner := taskId
  allowedPaths := [pattern]
  forbiddenPaths := []
  dependencies := []
  sharedContracts := []
  acceptanceCriteria := [text "it builds"]
  requiredTests := [text "pytest"]
  handoffRequirements := [text "a report"]
  riskClass := .high
  status
  revision
  integrationPaths := []
  executionMode := .isolatedWorktree
  schemaVersion := 1

/-- A file and a pattern that covers it. -/
theorem shared_file_classified_pattern : Classified safetyConfig
    (taskOn (text "first") (text "safety/a.py") .planned 1) (taskOn (text "second") (text "safety/*.py") .planned 1)
    (text "safety/a.py") := by
  have inLeft : ownershipViolations (taskOn (text "first") (text "safety/a.py") .planned 1) [text "safety/a.py"] =
      .ok [] := by
    decide +kernel
  have inRight : ownershipViolations (taskOn (text "second") (text "safety/*.py") .planned 1) [text "safety/a.py"] =
      .ok [] := by
    decide +kernel
  have normal : normalizeRepoPath (text "safety/a.py") "changed_files" = .ok (text "safety/a.py") := by decide +kernel
  have both := shared_file_classified safetyConfig inLeft inRight normal
  exact both.1.mpr (both.2 ⟨by decide +kernel, fun ref member => absurd member List.not_mem_nil, by decide +kernel⟩)

/-- With a blank before its one pattern, a task shares a safety file that neither its conflict nor a plan shows. -/
theorem padded_pattern_unseen :
    validateTask (taskOn (text "first") (text " safety/a.py") .planned 1) safetyConfig = .ok () ∧
      validateTask (taskOn (text "second") (text "safety/a.py") .planned 1) safetyConfig = .ok () ∧
      ownershipViolations (taskOn (text "first") (text " safety/a.py") .planned 1) [text "safety/a.py"] = .ok [] ∧
      ownershipViolations (taskOn (text "second") (text "safety/a.py") .planned 1) [text "safety/a.py"] = .ok [] ∧
      Guarded safetyConfig.safetyPaths (text "safety/a.py") ∧
      (classifyPair (taskOn (text "first") (text " safety/a.py") .planned 1)
        (taskOn (text "second") (text "safety/a.py") .planned 1) safetyConfig).level = .c0 ∧
      (plan [taskOn (text "first") (text " safety/a.py") .planned 1,
        taskOn (text "second") (text "safety/a.py") .planned 1] safetyConfig).map OrchestrationPlan.runnableIds =
          .ok [text "first", text "second"] := by
  exact ⟨by decide +kernel, by decide +kernel, by decide +kernel, by decide +kernel,
    ⟨_, List.mem_cons_self, by decide +kernel⟩, by decide +kernel, by decide +kernel⟩

/-- Without the blank the two conflict. -/
example : (classifyPair (taskOn (text "first") (text "safety/a.py") .planned 1)
    (taskOn (text "second") (text "safety/a.py") .planned 1) safetyConfig).level = .c4 := by
  decide +kernel

end CanX.Agent
