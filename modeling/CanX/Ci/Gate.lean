import CanX.Ci.Classification

/-! The quality gate: the outputs of the classifier as text, what is read back of them, and the decision over the
outcomes of the jobs. -/

namespace CanX.Ci

open Dbc

section Outputs

/-- A value of `as_dict`, of those that are written. -/
inductive Payload
  | flag (value : Bool)
  | word (value : Text)

def Classification.payload (routed : Classification) : List (Text × Payload) := [
  (text "runtime_required", .flag routed.runtimeRequired),
  (text "frontend_required", .flag routed.frontendRequired),
  (text "rust_required", .flag routed.rustRequired),
  (text "full_required", .flag routed.fullRequired),
  (text "classification", .word routed.classification)]

/-- `true` is spelled as the workflow reads it, and `False` as Python does. -/
def Payload.written : Payload → Text
  | .flag true => text "true"
  | .flag false => text "False"
  | .word value => value

def newline : CodePoint := codePoint '\n'

def equals : CodePoint := codePoint '='

/-- `_write_outputs`, which appends to the file. -/
def writeOutputs (file : Text) (routed : Classification) : Text :=
  file ++ List.intercalate [newline] (routed.payload.map fun entry => entry.1 ++ equals :: entry.2.written) ++ [newline]

/-- The letters, the underscore and the plus sign. -/
def plainPoint (point : CodePoint) : Bool :=
  (0x41 ≤ point.val && point.val ≤ 0x5A) || (0x61 ≤ point.val && point.val ≤ 0x7A) || point.val = 0x5F ||
    point.val = 0x2B

/-- The words that keys and values are. -/
def PlainWord (word : Text) : Prop := word ≠ [] ∧ word.all plainPoint = true

instance {word : Text} : Decidable (PlainWord word) := inferInstanceAs (Decidable (_ ∧ _))

/-- `str.lower`, for ASCII letters. -/
def lower (value : Text) : Text := value.map fun point => point.lower

def assignmentLine (key value : Text) : Text := key ++ equals :: value ++ [newline]

/-- How the runner reads the output file of a step. After complete content, of which no value over several lines is
left open, a line of a key and a value sets the output of that key; keys are told apart by their letters in lower case,
and the other outputs stay. -/
structure ReadsOutputs (complete : Text → Prop) (readOutput : Text → Text → Option Text) : Prop where
  empty : complete []
  extended : ∀ file key value, complete file → PlainWord key → PlainWord value →
    complete (file ++ assignmentLine key value)
  sets : ∀ file key value, complete file → PlainWord key → PlainWord value →
    readOutput (file ++ assignmentLine key value) key = some value
  keeps : ∀ file key value other, complete file → PlainWord key → PlainWord value → lower other ≠ lower key →
    readOutput (file ++ assignmentLine key value) other = readOutput file other

end Outputs

section Evaluation

def classifierJob : Text := text "change-classifier"

def Domain.job : Domain → Text
  | .runtime => text "runtime-python"
  | .frontend => text "frontend-typescript"
  | .rust => text "desktop-rust"

def Domain.flag : Domain → Text
  | .runtime => text "runtime_required"
  | .frontend => text "frontend_required"
  | .rust => text "rust_required"

/-- `flag.removesuffix("_required")`. -/
def Domain.name : Domain → Text
  | .runtime => text "runtime"
  | .frontend => text "frontend"
  | .rust => text "rust"

/-- `_JOB_FLAGS`. -/
def jobFlags : List Domain := [.runtime, .frontend, .rust]

/-- An object that a classification holds. -/
inductive GateValue
  | flag (value : Bool)
  | word (value : Text)
  /-- Anything else, as `str` shows it. -/
  | other (shown : Text)

def GateValue.str : GateValue → Text
  | .flag true => text "True"
  | .flag false => text "False"
  | .word value => value
  | .other shown => shown

def asBool : Option GateValue → Option Bool
  | some (.flag value) => some value
  | some (.word raw) =>
    if lower raw.strip = text "true" then some true
    else if lower raw.strip = text "false" then some false
    else none
  | _ => none

def recognisedLabels (fullRequired : Bool) (required : Domain → Bool) : List Text :=
  if fullRequired then [text "full"]
  else
    let names := (jobFlags.filter required).map Domain.name
    if names = [] then [text "docs_only", text "no_changes"] else [List.intercalate (text "+") names]

structure GateDecision where
  ok : Bool
  reasons : List Text
  classification : Text

/-- A classification, as the mapping of keys to objects that the gate reads. -/
abbrev Declared := Text → Option GateValue

variable (repr : Option Text → Text)

/-- What one domain job adds to the reasons. -/
def jobReasons (fullRequired : Option Bool) (requirement : Option Bool) (outcome : Option Text) (domain : Domain) :
    List Text :=
  match requirement with
  | none => [text "classification is incomplete: " ++ domain.flag ++ text " is missing or not a boolean"]
  | some required =>
    if (if fullRequired = some true then true else required) = true then
      if outcome ≠ some (text "success") then
        [text "a required job did not succeed (" ++ domain.job ++ text "=" ++ repr outcome ++ text ")"]
      else []
    else if outcome ∉ [some (text "success"), some (text "skipped")] then
      [text "a non-required job ended in an unexpected state (" ++ domain.job ++ text "=" ++ repr outcome ++ text ")"]
    else []

/-- `evaluate`, of a mapping or of what is none. -/
def evaluate (classification : Option Declared) (results : Text → Option Text) : GateDecision :=
  match classification with
  | none => ⟨false, [text "classification is not readable"], []⟩
  | some declared =>
    let label := ((declared (text "classification")).map GateValue.str).getD []
    let classifierResult := results classifierJob
    let fullRequired := asBool (declared (text "full_required"))
    let requirement := fun domain : Domain => asBool (declared domain.flag)
    let reasons :=
      (if classifierResult ≠ some (text "success") then
        [text "the change classifier did not succeed (" ++ repr classifierResult ++ text ")"] else []) ++
      (if fullRequired = none then
        [text "classification is incomplete: full_required is missing or not a boolean"] else []) ++
      (jobFlags.flatMap fun domain => jobReasons repr fullRequired (requirement domain) (results domain.job) domain) ++
      (match fullRequired with
      | none => []
      | some full =>
        if (jobFlags.all fun domain => (requirement domain).isSome) = true ∧
            label ∉ recognisedLabels full (fun domain => requirement domain = some true) then
          [text "classification is unreadable: the classification label " ++ repr (some label) ++
            text " is missing or is not one the requirement flags describe"]
        else [])
    ⟨reasons = [], reasons, label⟩

/-- `_classification_from_env`, with the outputs of the classifier in the environment. -/
def classificationFromEnv (outputs : Text → Option Text) : Declared := fun key =>
  if key ∈ [text "classification", text "full_required", text "runtime_required", text "frontend_required",
      text "rust_required"] then some (.word ((outputs key).getD []))
  else none

end Evaluation

section Reading

variable {complete : Text → Prop} {readOutput : Text → Text → Option Text} {file key value : Text}
variable {entries : List (Text × Text)}

def assignmentLines (entries : List (Text × Text)) : Text := entries.flatMap fun entry => assignmentLine entry.1 entry.2

def Classification.outputs (routed : Classification) : List (Text × Text) :=
  routed.payload.map fun entry => (entry.1, entry.2.written)

private theorem intercalate_lines {lines : List Text} (nonempty : lines ≠ []) :
    List.intercalate [newline] lines ++ [newline] = lines.flatMap fun line => line ++ [newline] := by
  induction lines with
  | nil => exact absurd rfl nonempty
  | cons line rest ih =>
    cases rest with
    | nil => rw [List.intercalate_singleton, List.flatMap_singleton]
    | cons next others =>
      have later := ih (List.cons_ne_nil next others)
      rw [List.intercalate_cons_of_ne_nil (List.cons_ne_nil next others), List.append_assoc, later, List.flatMap_cons,
        List.flatMap_cons, List.flatMap_cons]

theorem writeOutputs_lines (file : Text) (routed : Classification) :
    writeOutputs file routed = file ++ assignmentLines routed.outputs := by
  have nonempty : (routed.payload.map fun entry => entry.1 ++ equals :: entry.2.written) ≠ [] := by
    rw [Classification.payload]
    exact List.cons_ne_nil _ _
  rw [writeOutputs, List.append_assoc, intercalate_lines nonempty, assignmentLines, Classification.outputs,
    List.flatMap_map, List.flatMap_map]
  rfl

/-- Lines of other keys leave what is read under a key. -/
theorem ReadsOutputs.keeps_lines (reads : ReadsOutputs complete readOutput) (whole : complete file)
    (plain : ∀ entry ∈ entries, PlainWord entry.1 ∧ PlainWord entry.2)
    (others : ∀ entry ∈ entries, lower key ≠ lower entry.1) :
    readOutput (file ++ assignmentLines entries) key = readOutput file key := by
  induction entries generalizing file with
  | nil => exact congrArg (readOutput · key) (List.append_nil file)
  | cons entry rest ih =>
    obtain ⟨⟨named, valued⟩, plainRest⟩ := List.forall_mem_cons.mp plain
    obtain ⟨other, othersRest⟩ := List.forall_mem_cons.mp others
    have later := ih (reads.extended file entry.1 entry.2 whole named valued) plainRest othersRest
    rw [assignmentLines, List.flatMap_cons, ← List.append_assoc]
    exact later.trans (reads.keeps file entry.1 entry.2 key whole named valued other)

/-- Of lines with different keys each sets its output. -/
theorem ReadsOutputs.sets_lines (reads : ReadsOutputs complete readOutput) (whole : complete file)
    (plain : ∀ entry ∈ entries, PlainWord entry.1 ∧ PlainWord entry.2)
    (distinct : (entries.map fun entry => lower entry.1).Nodup) (member : (key, value) ∈ entries) :
    readOutput (file ++ assignmentLines entries) key = some value := by
  induction entries generalizing file with
  | nil => cases member
  | cons entry rest ih =>
    obtain ⟨⟨named, valued⟩, plainRest⟩ := List.forall_mem_cons.mp plain
    obtain ⟨fresh, distinctRest⟩ := List.nodup_cons.mp distinct
    have extended := reads.extended file entry.1 entry.2 whole named valued
    rw [assignmentLines, List.flatMap_cons, ← List.append_assoc]
    rcases List.mem_cons.mp member with same | there
    · obtain rfl := same
      have others : ∀ entry ∈ rest, lower key ≠ lower entry.1 := by
        intro entry later same
        exact fresh (List.mem_map.mpr ⟨entry, later, same.symm⟩)
      exact (reads.keeps_lines extended plainRest others).trans (reads.sets file key value whole named valued)
    · exact ih extended plainRest distinctRest there

private theorem outputKeys_plain (routed : Classification) :
    (∀ entry ∈ routed.payload, PlainWord entry.1) ∧ (routed.payload.map fun entry => lower entry.1).Nodup := by
  have keys : routed.payload.map Prod.fst = ["runtime_required", "frontend_required", "rust_required",
      "full_required", "classification"].map text := rfl
  constructor
  · have plain : ∀ key ∈ ["runtime_required", "frontend_required", "rust_required", "full_required",
        "classification"].map text, PlainWord key := by decide
    intro entry member
    exact plain _ (keys ▸ List.mem_map.mpr ⟨entry, member, rfl⟩)
  · have lowered : (routed.payload.map fun entry => lower entry.1) = (routed.payload.map Prod.fst).map lower :=
      (List.map_map).symm
    rw [lowered, keys]
    decide

private theorem written_plain (routed : Classification) (plain : PlainWord routed.classification) :
    ∀ entry ∈ routed.payload, PlainWord entry.2.written := by
  have flags (flag : Bool) : PlainWord (Payload.flag flag).written := by
    cases flag <;> decide
  intro entry member
  simp only [Classification.payload, List.mem_cons, List.not_mem_nil, or_false] at member
  obtain rfl | rfl | rfl | rfl | rfl := member
  · exact flags _
  · exact flags _
  · exact flags _
  · exact flags _
  · exact plain

/-- Every output that is written is read back, whatever complete content the file had before. -/
theorem readOutput_written {routed : Classification} {payload : Payload} (reads : ReadsOutputs complete readOutput)
    (whole : complete file) (plain : PlainWord routed.classification) (member : (key, payload) ∈ routed.payload) :
    readOutput (writeOutputs file routed) key = some payload.written := by
  obtain ⟨keys, distinct⟩ := outputKeys_plain routed
  have values := written_plain routed plain
  have plainEntries : ∀ entry ∈ routed.outputs, PlainWord entry.1 ∧ PlainWord entry.2 := by
    intro entry held
    obtain ⟨written, there, rfl⟩ := List.mem_map.mp held
    exact ⟨keys written there, values written there⟩
  have distinctEntries : (routed.outputs.map fun entry => lower entry.1).Nodup := by
    rw [Classification.outputs, List.map_map]
    exact distinct
  rw [writeOutputs_lines]
  exact reads.sets_lines whole plainEntries distinctEntries (List.mem_map.mpr ⟨_, member, rfl⟩)

end Reading

section Deciding

variable {repr : Option Text → Text} {declared : Declared} {results : Text → Option Text} {full : Bool}
variable {required : Domain → Bool} {domain : Domain}

/-- The outcome that a job may have. -/
def Acceptable (required : Bool) (outcome : Option Text) : Prop :=
  outcome = some (text "success") ∨ required = false ∧ outcome = some (text "skipped")

private theorem jobReasons_none (repr : Option Text → Text) (domain : Domain)
    (authoritative : full = true → required domain = true) (outcome : Option Text) :
    jobReasons repr (some full) (some (required domain)) outcome domain = [] ↔
      Acceptable (required domain) outcome := by
  have effective : (if some full = some true then true else required domain) = required domain := by
    by_cases every : full = true
    · rw [if_pos (congrArg some every), authoritative every]
    · rw [if_neg (fun same => every (Option.some.inj same))]
  rw [jobReasons, effective, Acceptable]
  cases required domain with
  | true => simp
  | false =>
    simp only [Bool.false_eq_true, if_false, ite_eq_right_iff, List.cons_ne_nil, imp_false, not_not, List.mem_cons,
      List.not_mem_nil, or_false, true_and]

/-- With a readable classification the gate passes exactly for acceptable outcomes. -/
theorem evaluate_ok (full : Bool) (required : Domain → Bool)
    (readable : asBool (declared (text "full_required")) = some full)
    (flags : ∀ domain : Domain, asBool (declared domain.flag) = some (required domain))
    (authoritative : full = true → ∀ domain, required domain = true)
    (label : ((declared (text "classification")).map GateValue.str).getD [] ∈ recognisedLabels full required) :
    (evaluate repr (some declared) results).ok = true ↔ results classifierJob = some (text "success") ∧
      ∀ domain : Domain, Acceptable (required domain) (results domain.job) := by
  have declaring : (fun domain : Domain => decide (asBool (declared domain.flag) = some true)) = required := by
    funext domain
    rw [flags]
    cases required domain with
    | true => rfl
    | false => rfl
  have jobs : (jobFlags.flatMap fun domain => jobReasons repr (some full) (asBool (declared domain.flag))
      (results domain.job) domain) = [] ↔ ∀ domain : Domain, Acceptable (required domain) (results domain.job) := by
    have each := fun domain : Domain => jobReasons_none repr domain
      (fun every => authoritative every domain) (results domain.job)
    simp only [List.flatMap_eq_nil_iff, flags, each]
    constructor
    · intro listed domain
      refine listed domain ?_
      cases domain with
      | runtime => decide
      | frontend => decide
      | rust => decide
    · intro all domain _
      exact all domain
  have labelled : ¬((jobFlags.all fun domain => (asBool (declared domain.flag)).isSome) = true ∧
      ((declared (text "classification")).map GateValue.str).getD [] ∉ recognisedLabels full required) :=
    fun both => both.2 label
  have classifier (reason : Text) : (if results classifierJob ≠ some (text "success") then [reason] else []) = [] ↔
      results classifierJob = some (text "success") := by
    simp only [ite_eq_right_iff, List.cons_ne_nil, imp_false, ne_eq, not_not]
  rw [evaluate, readable]
  dsimp only
  rw [decide_eq_true_iff, List.append_eq_nil_iff, List.append_eq_nil_iff, List.append_eq_nil_iff, jobs, declaring,
    classifier, if_neg labelled, if_neg (Option.some_ne_none full)]
  constructor
  · intro passed
    exact ⟨passed.1.1.1, passed.1.2⟩
  · intro passed
    exact ⟨⟨⟨passed.1, rfl⟩, passed.2⟩, rfl⟩

end Deciding

section Routing

variable {routed : Classification} {paths : List Text} {file : Text} {complete : Text → Prop}
variable {readOutput : Text → Text → Option Text}

private theorem domainLabel_plain (runtime frontend rust : Bool) : PlainWord (domainLabel runtime frontend rust) := by
  cases runtime <;> cases frontend <;> cases rust <;> decide

private theorem label_plain (shape : Routed routed) : PlainWord routed.classification := by
  cases shape with
  | full required all label =>
    rw [label]
    decide
  | unchanged optional none label =>
    rw [label]
    decide
  | domains optional label =>
    rw [label]
    exact domainLabel_plain _ _ _

private theorem domainLabel_recognised (required : Domain → Bool) :
    domainLabel (required .runtime) (required .frontend) (required .rust) ∈ recognisedLabels false required := by
  have names : (jobFlags.filter required).map Domain.name =
      labels (required .runtime) (required .frontend) (required .rust) := by
    simp only [jobFlags, List.filter_cons, List.filter_nil]
    cases required .runtime <;> cases required .frontend <;> cases required .rust <;> rfl
  rw [recognisedLabels, if_neg Bool.false_ne_true, names, domainLabel]
  dsimp only
  split
  · exact List.mem_cons_self
  · exact List.mem_singleton.mpr rfl

/-- The gate derives the label that the classifier gave. -/
theorem label_recognised (shape : Routed routed) :
    routed.classification ∈ recognisedLabels routed.fullRequired routed.requires := by
  cases shape with
  | full required all label =>
    rw [label, required]
    exact List.mem_singleton.mpr rfl
  | unchanged optional none label =>
    have names : (jobFlags.filter routed.requires).map Domain.name = [] := by
      simp only [jobFlags, List.filter_cons, List.filter_nil, none, Bool.false_eq_true, if_false, List.map_nil]
    rw [label, optional, recognisedLabels, if_neg Bool.false_ne_true, names]
    exact List.mem_cons_of_mem _ List.mem_cons_self
  | domains optional label =>
    rw [label, optional]
    exact domainLabel_recognised routed.requires

private theorem asBool_written (flag : Bool) : asBool (some (.word (Payload.flag flag).written)) = some flag := by
  cases flag <;> rfl

/-- What the gate reads of the outputs that were written. -/
theorem declared_written (reads : ReadsOutputs complete readOutput) (whole : complete file) (shape : Routed routed)
    {key : Text} {payload : Payload} (member : (key, payload) ∈ routed.payload) :
    classificationFromEnv (readOutput (writeOutputs file routed)) key = some (.word payload.written) := by
  have listed : key ∈ [text "classification", text "full_required", text "runtime_required",
      text "frontend_required", text "rust_required"] := by
    simp only [Classification.payload, List.mem_cons, Prod.mk.injEq, List.not_mem_nil, or_false] at member
    obtain ⟨rfl, -⟩ | ⟨rfl, -⟩ | ⟨rfl, -⟩ | ⟨rfl, -⟩ | ⟨rfl, -⟩ := member
    all_goals simp only [List.mem_cons, true_or, or_true]
  rw [classificationFromEnv, if_pos listed, readOutput_written reads whole (label_plain shape) member, Option.getD_some]

theorem gate_written {repr : Option Text → Text} {results : Text → Option Text}
    (reads : ReadsOutputs complete readOutput) (whole : complete file) (shape : Routed routed) :
    (evaluate repr (some (classificationFromEnv (readOutput (writeOutputs file routed)))) results).ok = true ↔
      results classifierJob = some (text "success") ∧
        ∀ domain : Domain, Acceptable (routed.requires domain) (results domain.job) := by
  have full : classificationFromEnv (readOutput (writeOutputs file routed)) (text "full_required") =
      some (.word (Payload.flag routed.fullRequired).written) :=
    declared_written reads whole shape (by simp [Classification.payload])
  have label : classificationFromEnv (readOutput (writeOutputs file routed)) (text "classification") =
      some (.word (Payload.word routed.classification).written) :=
    declared_written reads whole shape (by simp [Classification.payload])
  refine evaluate_ok routed.fullRequired routed.requires ?_ ?_ ?_ ?_
  · rw [full]
    exact asBool_written _
  · intro domain
    have flag : (domain.flag, Payload.flag (routed.requires domain)) ∈ routed.payload := by
      cases domain with
      | runtime => exact List.mem_cons_self
      | frontend => exact List.mem_cons_of_mem _ List.mem_cons_self
      | rust => exact List.mem_cons_of_mem _ (List.mem_cons_of_mem _ List.mem_cons_self)
    rw [declared_written reads whole shape flag]
    exact asBool_written _
  · intro every
    cases shape with
    | full required all label => exact all
    | unchanged optional none label =>
      rw [optional] at every
      cases every
    | domains optional label =>
      rw [optional] at every
      cases every
  · rw [label]
    exact label_recognised shape

private theorem considered_union {first second union : List Text}
    (members : ∀ path, path ∈ union ↔ path ∈ first ∨ path ∈ second)
    (path : Text) : path ∈ considered union ↔ path ∈ considered first ∨ path ∈ considered second := by
  simp only [considered, List.mem_filter, List.mem_map, members]
  constructor
  · rintro ⟨⟨raw, inFirst | inSecond, same⟩, named⟩
    · exact .inl ⟨⟨raw, inFirst, same⟩, named⟩
    · exact .inr ⟨⟨raw, inSecond, same⟩, named⟩
  · rintro (⟨⟨raw, member, same⟩, named⟩ | ⟨⟨raw, member, same⟩, named⟩)
    · exact ⟨⟨raw, .inl member, same⟩, named⟩
    · exact ⟨⟨raw, .inr member, same⟩, named⟩

/-- The jobs of two sets of paths together are the jobs of either; a critical or an unknown path needs all of them;
and the gate passes exactly if the classifier and every needed job succeeded, and no other job did worse than being
skipped. -/
theorem routing_fails_closed :
    (∀ first second union : List Text, (∀ path, path ∈ union ↔ path ∈ first ∨ path ∈ second) → ∀ domain,
      (classifyPaths union).requires domain =
        ((classifyPaths first).requires domain || (classifyPaths second).requires domain)) ∧
    (∀ (paths : List Text) (path : Text), path ∈ paths → normalise path ≠ [] →
      matchesAny (normalise path) criticalPatterns = true ∨ known (normalise path) = false →
        ∀ domain, (classifyPaths paths).requires domain = true) ∧
    ∀ (complete : Text → Prop) (readOutput : Text → Text → Option Text), ReadsOutputs complete readOutput →
      ∀ (paths : List Text) (file : Text) (repr : Option Text → Text) (results : Text → Option Text), complete file →
        ((evaluate repr (some (classificationFromEnv (readOutput (writeOutputs file (classifyPaths paths)))))
            results).ok = true ↔
          results classifierJob = some (text "success") ∧
            ∀ domain : Domain, Acceptable ((classifyPaths paths).requires domain) (results domain.job)) := by
  refine ⟨?_, ?_, ?_⟩
  · intro first second union members domain
    rw [(classifyPaths_routed union).2, (classifyPaths_routed first).2, (classifyPaths_routed second).2]
    refine Bool.eq_iff_iff.mpr ?_
    rw [Bool.or_eq_true, List.any_eq_true, List.any_eq_true, List.any_eq_true]
    constructor
    · rintro ⟨path, member, asked⟩
      exact ((considered_union members path).mp member).imp (fun held => ⟨path, held, asked⟩)
        (fun held => ⟨path, held, asked⟩)
    · rintro (⟨path, member, asked⟩ | ⟨path, member, asked⟩)
      · exact ⟨path, (considered_union members path).mpr (.inl member), asked⟩
      · exact ⟨path, (considered_union members path).mpr (.inr member), asked⟩
  · intro paths path member named escalates domain
    have held : normalise path ∈ considered paths :=
      List.mem_filter.mpr ⟨List.mem_map.mpr ⟨path, member, rfl⟩, decide_eq_true named⟩
    have asked : demands domain (normalise path) = true := by
      obtain critical | unknown := escalates
      · rw [demands, critical, Bool.true_or, Bool.true_or]
      · rw [demands, unknown, Bool.not_false, Bool.or_true, Bool.true_or]
    rw [(classifyPaths_routed paths).2]
    exact List.any_eq_true.mpr ⟨_, held, asked⟩
  · intro complete readOutput reads paths file repr results whole
    exact gate_written reads whole (classifyPaths_routed paths).1

end Routing

section LineReader

variable {file key value line : Text}

def splitLines : Text → List Text
  | [] => [[]]
  | point :: rest =>
    if point = newline then [] :: splitLines rest
    else
      match splitLines rest with
      | [] => [[point]]
      | line :: others => (point :: line) :: others

/-- The assignment of a line, up to its first equals sign. -/
def assignment (line : Text) : Option (Text × Text) :=
  match line.dropWhile fun point => point ≠ equals with
  | [] => none
  | _ :: value => some (line.takeWhile fun point => point ≠ equals, value)

/-- A reader of files without values over several lines: the last assignment of a key counts. -/
def lineReader (file : Text) (key : Text) : Option Text := ((splitLines file).filterMap assignment).reverse.lookup key

/-- A file of whole lines. -/
def WholeLines (file : Text) : Prop := file = [] ∨ ∃ front, file = front ++ [newline]

private theorem splitLines_nonempty (file : Text) : splitLines file ≠ [] := by
  cases file with
  | nil => exact List.cons_ne_nil _ _
  | cons point rest =>
    rw [splitLines]
    split
    · exact List.cons_ne_nil _ _
    · split
      · exact List.cons_ne_nil _ _
      · exact List.cons_ne_nil _ _

private theorem splitLines_append (front back : Text) :
    splitLines (front ++ newline :: back) = splitLines front ++ splitLines back := by
  induction front with
  | nil =>
    have split : splitLines (newline :: back) = [] :: splitLines back := by
      rw [splitLines, if_pos rfl]
    rw [List.nil_append, split, splitLines, List.singleton_append]
  | cons point rest ih =>
    rw [List.cons_append, splitLines, splitLines]
    by_cases ended : point = newline
    · rw [if_pos ended, if_pos ended, ih, List.cons_append]
    · rw [if_neg ended, if_neg ended, ih]
      cases held : splitLines rest with
      | nil => exact absurd held (splitLines_nonempty rest)
      | cons line others => rfl

private theorem splitLines_line (whole : newline ∉ line) : splitLines line = [line] := by
  induction line with
  | nil => rfl
  | cons point rest ih =>
    obtain ⟨here, there⟩ := not_or.mp (fun found => whole (List.mem_cons.mpr found))
    rw [splitLines, if_neg (Ne.symm here), ih there]

theorem PlainWord.not_mem {point : CodePoint} (plain : PlainWord line) (other : plainPoint point = false) :
    point ∉ line := by
  intro member
  rw [List.all_eq_true.mp plain.2 point member] at other
  cases other

private theorem assignment_written (named : PlainWord key) (value : Text) :
    assignment (key ++ equals :: value) = some (key, value) := by
  have absent : equals ∉ key := named.not_mem (by decide)
  have stops : ∀ point ∈ key, decide (point ≠ equals) = true := by
    intro point member
    exact decide_eq_true fun same => absent (same ▸ member)
  rw [assignment, List.dropWhile_append_of_pos stops, List.takeWhile_append_of_pos stops]
  simp

private theorem assignments_written (whole : WholeLines file) (named : PlainWord key) (valued : PlainWord value) :
    (splitLines (file ++ assignmentLine key value)).filterMap assignment =
      (splitLines file).filterMap assignment ++ [(key, value)] := by
  have single : newline ∉ key ++ equals :: value := by
    intro member
    rcases List.mem_append.mp member with inKey | inRest
    · exact named.not_mem (by decide) inKey
    · rcases List.mem_cons.mp inRest with same | inValue
      · exact absurd same (by decide)
      · exact valued.not_mem (by decide) inValue
  have last : (splitLines (assignmentLine key value)).filterMap assignment = [(key, value)] := by
    rw [assignmentLine, splitLines_append, splitLines_line single, List.filterMap_append, List.filterMap_cons_some
      (assignment_written named value)]
    rfl
  obtain rfl | ⟨front, rfl⟩ := whole
  · exact last
  · have nothing : (splitLines []).filterMap assignment = [] := rfl
    rw [List.append_assoc, List.singleton_append, splitLines_append, splitLines_append, List.filterMap_append,
      List.filterMap_append, last, nothing, List.append_nil]

private theorem lineReader_reads : ReadsOutputs WholeLines lineReader where
  empty := .inl rfl
  extended file key value _ _ _ := .inr ⟨file ++ (key ++ equals :: value), (List.append_assoc _ _ _).symm⟩
  sets file key value whole named valued := by
    rw [lineReader, assignments_written whole named valued, List.reverse_append, List.reverse_singleton,
      List.singleton_append, List.lookup_cons_self]
  keeps file key value other whole named valued different := by
    have unlike : other ≠ key := fun same => different (congrArg lower same)
    rw [lineReader, assignments_written whole named valued, List.reverse_append, List.reverse_singleton,
      List.singleton_append, List.lookup_cons, beq_false_of_ne unlike, lineReader]

/-- A document and a script: the script needs all jobs, and without them the gate stays shut. -/
theorem routing_fails_closed_script : (∀ domain,
    (classifyPaths [text "docs/guide.md", text "scripts/run.ps1"]).requires domain = true) ∧
      (∀ domain, (classifyPaths [text "docs/guide.md", text "scripts/run.ps1"]).requires domain =
        ((classifyPaths [text "docs/guide.md"]).requires domain ||
          (classifyPaths [text "scripts/run.ps1"]).requires domain)) ∧
      (evaluate (fun _ => []) (some (classificationFromEnv (lineReader (writeOutputs []
        (classifyPaths [text "scripts/run.ps1"]))))) fun _ => some (text "skipped")).ok = false := by
  have script : ∀ domain, (classifyPaths [text "docs/guide.md", text "scripts/run.ps1"]).requires domain = true :=
    routing_fails_closed.2.1 _ (text "scripts/run.ps1") (by decide +kernel) (by decide +kernel)
      (.inl (by decide +kernel))
  refine ⟨script, ?_, ?_⟩
  · refine routing_fails_closed.1 _ _ _ ?_
    intro path
    simp only [List.mem_cons, List.not_mem_nil, or_false]
  · refine Bool.eq_false_iff.mpr ?_
    intro passed
    have succeeded := ((routing_fails_closed.2.2 WholeLines lineReader lineReader_reads [text "scripts/run.ps1"] [] _ _
      (.inl rfl)).mp passed).1
    exact absurd succeeded (by decide +kernel)

/-- A document alone: the gate passes with every domain job skipped. -/
example : (evaluate (fun _ => []) (some (classificationFromEnv (lineReader (writeOutputs []
    (classifyPaths [text "docs/guide.md"]))))) fun job =>
      some (if job = classifierJob then text "success" else text "skipped")).ok = true := by decide +kernel

end LineReader

end CanX.Ci
