import CanX.Data.Model

/-! Where segment files live, as project-relative text. -/

namespace CanX.Data

open Domain

def temporarySuffix : String := ".parquet.tmp"

/-- The decimal digits of an index, padded with zeros to six characters. -/
def paddedIndex (segmentIndex : Nat) : List Char :=
  let digits := Nat.toDigits 10 segmentIndex
  List.replicate (6 - digits.length) '0' ++ digits

def segmentFilename (segmentIndex : Nat) : String :=
  String.ofList (paddedIndex segmentIndex) ++ ".parquet"

def sessionRelativeDirectory (sessionId : Uuid) : String :=
  "data/sessions/" ++ sessionId.text

def segmentRelativePath (sessionId : Uuid) (segmentIndex : Nat) : String :=
  sessionRelativeDirectory sessionId ++ "/segments/" ++ segmentFilename segmentIndex

/-- `path.with_name(path.name + TEMPORARY_SUFFIX)`. -/
def temporaryPath (path : String) : String := path ++ temporarySuffix

/-- Padding with leading zeros keeps the number that the digits spell. -/
theorem ofDigitChars_paddedIndex (segmentIndex : Nat) :
    Nat.ofDigitChars 10 (paddedIndex segmentIndex) 0 = segmentIndex := by
  simp only [paddedIndex, Nat.ofDigitChars_append, Nat.ofDigitChars_replicate_zero]
  simp

private theorem segmentFilename_injective {first second : Nat}
    (same : segmentFilename first = segmentFilename second) : first = second := by
  have characters := congrArg String.toList same
  simp only [segmentFilename, String.toList_append, String.toList_ofList] at characters
  have digits : paddedIndex first = paddedIndex second := List.append_cancel_right characters
  rw [← ofDigitChars_paddedIndex first, digits, ofDigitChars_paddedIndex]

theorem segmentRelativePath_injective {sessionId : Uuid} {first second : Nat}
    (same : segmentRelativePath sessionId first = segmentRelativePath sessionId second) :
    first = second := by
  have characters := congrArg String.toList same
  simp only [segmentRelativePath, String.toList_append] at characters
  have names := List.append_cancel_left characters
  exact segmentFilename_injective (String.toList_injective names)

/-- A temporary file never has the name of a committed segment. -/
theorem temporaryPath_ne_segment (path : String) (sessionId : Uuid) (segmentIndex : Nat) :
    temporaryPath path ≠ segmentRelativePath sessionId segmentIndex := by
  intro same
  have characters := congrArg (fun text : String => text.toList.reverse.head?) same
  simp [temporaryPath, temporarySuffix, segmentRelativePath, segmentFilename] at characters

/-- The characters of the parts of a path that no identity or index supplies. -/
def fixedCharacters : List Char := "data/sessions/segments.parquet".toList

private theorem fixed_of_all {characters : List Char}
    (all : (characters.all fun character => decide (character ∈ fixedCharacters)) = true) :
    ∀ character ∈ characters, character ∈ fixedCharacters :=
  fun character member => of_decide_eq_true (List.all_eq_true.mp all character member)

private theorem character_of_path {sessionId : Uuid} {segmentIndex : Nat} {character : Char}
    (member : character ∈ (segmentRelativePath sessionId segmentIndex).toList) :
    character ∈ fixedCharacters ∨ character ∈ sessionId.text.toList ∨
      character.isDigit = true := by
  simp only [segmentRelativePath, sessionRelativeDirectory, segmentFilename, paddedIndex,
    String.toList_append, String.toList_ofList, List.mem_append, List.mem_replicate] at member
  have prefixed : ∀ c ∈ "data/sessions/".toList, c ∈ fixedCharacters := fixed_of_all (by decide)
  have between : ∀ c ∈ "/segments/".toList, c ∈ fixedCharacters := fixed_of_all (by decide)
  have extension : ∀ c ∈ ".parquet".toList, c ∈ fixedCharacters := fixed_of_all (by decide)
  rcases member with ((fixed | identity) | fixed) | ((⟨-, rfl⟩ | digit) | fixed)
  · exact .inl (prefixed _ fixed)
  · exact .inr (.inl identity)
  · exact .inl (between _ fixed)
  · exact .inr (.inr (by decide))
  · exact .inr (.inr (Nat.isDigit_of_mem_toDigits (by decide) (by decide) digit))
  · exact .inl (extension _ fixed)

/-- The canonical path of a segment is one the model layer accepts. -/
theorem segmentRelativePath_accepted (sessionId : Uuid) (segmentIndex : Nat) :
    requireRelativePath (segmentRelativePath sessionId segmentIndex) = .ok () := by
  have rooted : ∃ rest, (segmentRelativePath sessionId segmentIndex).toList =
      'd' :: 'a' :: rest := by
    simp [segmentRelativePath, sessionRelativeDirectory]
  obtain ⟨rest, spelled⟩ := rooted
  have nonempty : segmentRelativePath sessionId segmentIndex ≠ "" := by
    intro empty
    simp [empty] at spelled
  have forward : '\\' ∉ (segmentRelativePath sessionId segmentIndex).toList := by
    intro member
    rcases character_of_path member with fixed | identity | digit
    · exact absurd fixed (by decide)
    · have canonical := List.all_eq_true.mp sessionId.canonical _ identity
      exact absurd canonical (by decide)
    · exact absurd digit (by decide)
  have relative : isAbsolutePath (segmentRelativePath sessionId segmentIndex) ≠ true := by
    simp [isAbsolutePath, spelled]
  simp [requireRelativePath, nonempty, forward, relative]

end CanX.Data
