import CanX.Query.ReadPaths
import CanX.Storage.Glob

/-! The patterns that the engine hands to DuckDB for the paths of validated files, and the files that they open. -/

namespace CanX.Query

open Dbc Domain Data Transport Storage Transition

section Patterns

def duckGlob : GlobAlphabet CodePoint where
  star := codePoint '*'
  question := codePoint '?'
  opening := codePoint '['
  closing := codePoint ']'
  negation := codePoint '!'
  range := codePoint '-'
  separator := codePoint '/'
  distinct := by decide

/-- `_PATH_GLOB_ESCAPE`. -/
def pathGlobEscape : List (CodePoint × Text) :=
  [(codePoint '[', text "[[]"), (codePoint '*', text "[*]"), (codePoint '?', text "[?]")]

/-- `str.translate`, in a single pass. -/
def translate (table : List (CodePoint × Text)) (value : Text) : Text :=
  value.flatMap fun point => (table.lookup point).getD [point]

/-- `_path_list`, of paths in their POSIX form. -/
def pathList (paths : List Text) : List Text := paths.map (translate pathGlobEscape)

theorem translate_escape (value : Text) : translate pathGlobEscape value = duckGlob.escape value := by
  rw [translate, GlobAlphabet.escape]
  refine List.flatMap_congr ?_
  intro point member
  by_cases opening : point = codePoint '['
  · subst opening
    decide
  by_cases star : point = codePoint '*'
  · subst star
    decide
  by_cases question : point = codePoint '?'
  · subst question
    decide
  have absent : pathGlobEscape.lookup point = none := by
    simp only [pathGlobEscape, List.lookup_cons, beq_false_of_ne opening, beq_false_of_ne star,
      beq_false_of_ne question, List.lookup_nil]
  have plain : ¬(point = duckGlob.star ∨ point = duckGlob.question ∨ point = duckGlob.opening) := by
    simp only [duckGlob, not_or]
    exact ⟨star, question, opening⟩
  rw [absent, if_neg plain, Option.getD_none]

/-- Unescaped, a name in brackets is a class. -/
example : duckGlob.Matches (text "a[1]") (text "a1") := by
  have class_one : duckGlob.Class false (text "1") [] (text "1]") :=
    .listed (by decide) (by simp)
  have plain : duckGlob.Plain (codePoint 'a') := by
    exact ⟨by decide, by decide, by decide⟩
  exact .literal plain (.bracket class_one ⟨fun _ => rfl, fun _ => List.mem_singleton.mpr rfl⟩ .done)

end Patterns

section Listing

/-- The files of a listing that a pattern names. -/
noncomputable def globbed (listing : List String) (pattern : Text) : List String :=
  open Classical in listing.filter fun path => decide (duckGlob.Matches pattern (text path))

/-- The rows that a statement over `read_parquet(?)` finds, for the patterns bound to it. -/
noncomputable def scanned (listing : List String) (files : Files) (filter : FrameFilter) (afterSequence : Option Int)
    (patterns : List Text) : List FrameRow :=
  selected files (selects filter afterSequence) (patterns.flatMap (globbed listing))

/-- What a file system lists: every file of the project, beside whatever else there is. -/
structure Lists (listing : List String) (tree : FileTree) : Prop where
  once : listing.Nodup
  present : ∀ path, tree.files path ≠ none → path ∈ listing

end Listing

section Exact

variable {tree : FileTree} {session : DataSession} {segments : List DataSegment} {plan : QueryPlan}
variable {paths listing : List String} {path : String}

private theorem globbed_listed (once : listing.Nodup) (member : path ∈ listing) :
    globbed listing (translate pathGlobEscape (text path)) = [path] := by
  have criterion : ∀ other ∈ listing,
      duckGlob.Matches (translate pathGlobEscape (text path)) (text other) ↔ other = path := by
    intro other there
    rw [translate_escape, GlobAlphabet.matches_escape]
    exact ⟨text_injective, congrArg text⟩
  have filtered : globbed listing (translate pathGlobEscape (text path)) = listing.filter (· = path) := by
    refine List.filter_congr ?_
    intro other there
    exact decide_eq_decide.mpr (criterion other there)
  rw [filtered, List.filter_eq, List.count_eq_one_of_mem once member]
  rfl

/-- What the gate lets through is a file of the project, at the path of a registered segment. -/
theorem candidatePaths_registered (found : candidatePaths tree session segments plan = .ok paths)
    (member : path ∈ paths) :
    tree.files path ≠ none ∧ ∃ segment ∈ segments, resolveWithinRoot tree segment.relativePath = .ok path := by
  obtain ⟨relativePath, -, resolved⟩ := mapM_source found member
  obtain ⟨segment, named, candidate⟩ := bind_ok.mp resolved
  obtain ⟨within, header, passed⟩ := candidatePath_ok.mp candidate
  obtain ⟨table, gated⟩ := requireRegisteredSegment_gated passed
  obtain ⟨file, held, -⟩ := gated.file
  refine ⟨by rw [held]; exact Option.some_ne_none file, segment, ?_, within⟩
  rw [byPath] at named
  split at named
  · rename_i other there
    obtain rfl := Except.ok.inj named
    exact List.mem_reverse.mp (List.mem_of_find?_eq_some there)
  · cases named

private theorem globbed_paths (lists : Lists listing tree) (files : ∀ path ∈ paths, tree.files path ≠ none) :
    (pathList (paths.map text)).flatMap (globbed listing) = paths := by
  induction paths with
  | nil => rfl
  | cons path rest ih =>
    obtain ⟨here, there⟩ := List.forall_mem_cons.mp files
    have opened := globbed_listed lists.once (lists.present path here)
    have others : (pathList (rest.map text)).flatMap (globbed listing) = rest := ih there
    rw [pathList, List.map_cons, List.map_cons, List.flatMap_cons, opened, ← pathList, others, List.singleton_append]

/-- An escaped path matches itself and no other text, so a statement over the files that passed the gate reads
those files, each once for each time it is named, and no other. -/
theorem pathList_exact :
    (∀ path value : Text, duckGlob.Matches (translate pathGlobEscape path) value ↔ value = path) ∧
    ∀ (tree : FileTree) (session : DataSession) (segments : List DataSegment) (plan : QueryPlan) (paths : List String),
      candidatePaths tree session segments plan = .ok paths →
        (∀ path ∈ paths, ∃ segment ∈ segments, resolveWithinRoot tree segment.relativePath = .ok path) ∧
        ∀ listing : List String, Lists listing tree →
          (pathList (paths.map text)).flatMap (globbed listing) = paths ∧
          ∀ filter afterSequence, scanned listing (engineFiles tree) filter afterSequence (pathList (paths.map text)) =
            matching (engineFiles tree) filter afterSequence paths := by
  constructor
  · intro path value
    rw [translate_escape]
    exact GlobAlphabet.matches_escape
  · intro tree session segments plan paths found
    have registered := fun path (member : path ∈ paths) => candidatePaths_registered found member
    refine ⟨fun path member => (registered path member).2, ?_⟩
    intro listing lists
    have opened := globbed_paths lists fun path member => (registered path member).1
    refine ⟨opened, ?_⟩
    intro filter afterSequence
    rw [scanned, opened, matching]

end Exact

section Sample

/-- The stored file below a directory whose name is a pattern. -/
def bracketedPath : String := "a[1]/" ++ segmentRelativePath sampleSession 0

def bracketedTree : FileTree :=
  ⟨fun relativePath => some ("a[1]/" ++ relativePath),
    fun path => if path = bracketedPath then some storedFile else none⟩

def storedPlan : QueryPlan where
  sessionId := sampleSession
  registeredSegmentCount := 1
  candidateSegmentCount := 1
  relativePaths := [segmentRelativePath sampleSession 0]

private theorem bracketed_found : candidatePaths bracketedTree storedSession [⟨storedSegment 7, storedSegment_valid 7⟩]
    storedPlan = .ok [bracketedPath] := by
  have passed : requireRegisteredSegment bracketedTree bracketedPath storedSession
      ⟨storedSegment 7, storedSegment_valid 7⟩ = .ok ⟨sampleSession, "s", 0, 1, 1⟩ := by decide +kernel
  have candidate : candidatePath bracketedTree storedSession ⟨storedSegment 7, storedSegment_valid 7⟩ =
      .ok bracketedPath := candidatePath_ok.mpr ⟨rfl, _, passed⟩
  have named : byPath [⟨storedSegment 7, storedSegment_valid 7⟩] (segmentRelativePath sampleSession 0) =
      .ok ⟨storedSegment 7, storedSegment_valid 7⟩ := by decide +kernel
  rw [candidatePaths, storedPlan, List.mapM_cons, named, ok_bind, candidate]
  rfl

/-- The directory `a[1]` beside the directory `a1`, whose file its name would have matched. -/
theorem pathList_exact_bracketed :
    (pathList [text bracketedPath]).flatMap
      (globbed ["a1/" ++ segmentRelativePath sampleSession 0, bracketedPath]) = [bracketedPath] := by
  have lists : Lists ["a1/" ++ segmentRelativePath sampleSession 0, bracketedPath] bracketedTree := by
    constructor
    · decide +kernel
    · intro path there
      by_cases here : path = bracketedPath
      · rw [here]
        exact List.mem_cons_of_mem _ List.mem_cons_self
      · exact absurd (if_neg here) there
  exact ((pathList_exact.2 _ _ _ _ _ bracketed_found).2 _ lists).1

end Sample

end CanX.Query
