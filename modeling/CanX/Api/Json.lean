import CanX.Desktop.JsValue
import CanX.Transport.PyValue

/-! A payload as JSON text gives it to the renderer. -/

namespace CanX.Api

open Dbc Desktop Transport

mutual

/-- The payload has a JSON body in UTF-8: no bytes, and no text with an unpaired surrogate. -/
def spelled : PyValue → Bool
  | .str value => value.encodable
  | .bytes _ => false
  | .list elements => eachSpelled elements
  | .dict entries => entriesSpelled entries
  | _ => true

def eachSpelled : List PyValue → Bool
  | [] => true
  | element :: rest => spelled element && eachSpelled rest

def entriesSpelled : List (String × PyValue) → Bool
  | [] => true
  | (_, value) :: rest => spelled value && entriesSpelled rest

end

mutual

/-- What a parser with double numbers reads of the body. -/
def parsed : PyValue → JsValue
  | .none => .null
  | .bool value => .boolean value
  | .int value => .number (nearestDouble value)
  | .float value => .number value
  | .str value => .string (characters value)
  | .bytes data => .bytes data
  | .list elements => .array (eachParsed elements)
  | .dict entries => .object (entriesParsed entries)

def eachParsed : List PyValue → List JsValue
  | [] => []
  | element :: rest => parsed element :: eachParsed rest

def entriesParsed : List (String × PyValue) → List (String × JsValue)
  | [] => []
  | (key, value) :: rest => (key, parsed value) :: entriesParsed rest

end

section Parsed

theorem parsed_none : parsed .none = .null := rfl

theorem parsed_bool (value : Bool) : parsed (.bool value) = .boolean value := rfl

theorem parsed_int (value : Int) : parsed (.int value) = .number (nearestDouble value) := rfl

theorem parsed_float (value : Rat) : parsed (.float value) = .number value := rfl

theorem parsed_str (value : Text) : parsed (.str value) = .string (characters value) := rfl

theorem parsed_list (elements : List PyValue) : parsed (.list elements) = .array (eachParsed elements) := rfl

theorem parsed_dict (entries : List (String × PyValue)) :
    parsed (.dict entries) = .object (entriesParsed entries) := rfl

end Parsed

/-- The parsed body, where there is one. -/
def jsonBody (payload : PyValue) : Option JsValue := if spelled payload then some (parsed payload) else none

theorem spelled_str (value : Text) : spelled (.str value) = value.encodable := by
  rw [spelled]

theorem eachSpelled_iff {elements : List PyValue} :
    eachSpelled elements = true ↔ ∀ element ∈ elements, spelled element = true := by
  induction elements with
  | nil => simp [eachSpelled]
  | cons element rest ih => simp [eachSpelled, ih]

theorem entriesSpelled_iff {entries : List (String × PyValue)} :
    entriesSpelled entries = true ↔ ∀ entry ∈ entries, spelled entry.2 = true := by
  induction entries with
  | nil => simp [entriesSpelled]
  | cons entry rest ih => simp [entriesSpelled, ih]

theorem eachParsed_eq (elements : List PyValue) : eachParsed elements = elements.map parsed := by
  induction elements with
  | nil => rfl
  | cons element rest ih => rw [eachParsed, ih, List.map_cons]

theorem propertyOf_parsed (entries : List (String × PyValue)) (key : String) :
    propertyOf (entriesParsed entries) key = ((entries.lookup key).map parsed).getD .undefined := by
  induction entries with
  | nil => rfl
  | cons entry rest ih =>
    obtain ⟨name, value⟩ := entry
    by_cases same : key = name
    · subst same
      simp [entriesParsed]
    · rw [entriesParsed, propertyOf_there same, ih, List.lookup_cons, beq_eq_false_iff_ne.mpr same]

end CanX.Api
